import DocLint.Text.Bytes
import DocLint.Text.Class

/-!
# Tokens of type expressions

A text is read as tokens divided by white space: names, brackets, arrows and
separators.  Each token is the longest that fits.  Reading stops at the end of
the text, or at the first character that starts no token.
-/

namespace DocLint

open Text

/-- The brackets of a collection. -/
inductive Bracket
  | angle
  | paren
  | brace
  deriving DecidableEq, Repr

/-- The opening character. -/
def Bracket.openChar : Bracket → Char
  | .angle => '<'
  | .paren => '('
  | .brace => '\x7b'

/-- The closing character. -/
def Bracket.closeChar : Bracket → Char
  | .angle => '>'
  | .paren => ')'
  | .brace => '\x7d'

/-- What a token stands for.  A comma and a semicolon are the same separator. -/
inductive TokenKind
  | name (text : String)
  | opening (bracket : Bracket)
  | closing (bracket : Bracket)
  | arrow
  | separator
  deriving DecidableEq, Repr

/-- A token as messages show it. -/
def TokenKind.describe : TokenKind → String
  | .name text => "name '" ++ text ++ "'"
  | .opening bracket => String.ofList ['\'', bracket.openChar, '\'']
  | .closing bracket => String.ofList ['\'', bracket.closeChar, '\'']
  | .arrow => "'=>'"
  | .separator => "','"

/-- A token with the byte positions where it starts and stops. -/
structure Token where
  kind : TokenKind
  start : Nat
  stop : Nat
  deriving DecidableEq, Repr

namespace Token

/-- How many of the characters after a name's first word character belong to the
name: word characters, and double colons in front of one. -/
def nameTail : List Char → Nat
  | ':' :: ':' :: c :: rest => if isNameChar c then nameTail rest + 3 else 0
  | c :: rest => if isNameChar c then nameTail rest + 1 else 0
  | [] => 0

/-- The token that starts with the character `c`: what it stands for, and how
many of the characters after `c` belong to it. -/
def kindAt? (c : Char) (rest : List Char) : Option (TokenKind × Nat) :=
  let named (length : Nat) : TokenKind × Nat :=
    (.name (String.ofList (c :: rest.take length)), length)
  match c with
  | '<' => some (.opening .angle, 0)
  | '>' => some (.closing .angle, 0)
  | '(' => some (.opening .paren, 0)
  | ')' => some (.closing .paren, 0)
  | '\x7b' => some (.opening .brace, 0)
  | '\x7d' => some (.closing .brace, 0)
  | ',' => some (.separator, 0)
  | ';' => some (.separator, 0)
  | '=' => if rest.head? = some '>' then some (.arrow, 1) else none
  | '#' =>
    match (rest.takeWhile isNameChar).length with
    | 0 => none
    | length => some (named length)
  | ':' =>
    match rest with
    | ':' :: d :: more =>
    if isNameChar d then some (named (nameTail more + 2)) else none
    | _ => none
  | _ => if isNameChar c then some (named (nameTail rest)) else none

end Token

/-- Where reading tokens stopped: at the end of the text, or at a character that
starts no token. -/
inductive Ending
  | endOfText (offset : Nat)
  | invalid (character : Char) (offset : Nat)
  deriving DecidableEq, Repr

/-- The tokens of a text. -/
structure Lexed where
  tokens : List Token
  ending : Ending
  deriving DecidableEq, Repr

namespace Lexed

/-- The tokens of a text that starts at a byte position. -/
def ofChars (offset : Nat) : List Char → Lexed
  | [] => ⟨[], .endOfText offset⟩
  | c :: rest =>
    if isBlank c then
      ofChars (offset + c.utf8Size) rest
    else
      match Token.kindAt? c rest with
      | none => ⟨[], .invalid c offset⟩
      | some (kind, length) =>
        let stop := offset + byteLength (c :: rest.take length)
        let lexed := ofChars stop (rest.drop length)
        ⟨⟨kind, offset, stop⟩ :: lexed.tokens, lexed.ending⟩
termination_by text => text.length
decreasing_by
  · exact Nat.lt_succ_self _
  · simp only [List.length_drop, List.length_cons]
    omega

end Lexed
end DocLint
