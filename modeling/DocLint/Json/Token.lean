import DocLint.Rest

/-!
# Tokens of JSON texts

A JSON text is read as punctuation, words, numbers and strings divided by
blanks.  The text of a string may hold escaped surrogates; two that belong
together stand for one character, and one alone leaves the string unreadable.
-/

namespace DocLint
namespace Json

/-- A token of a JSON text. -/
inductive Token
  | openArray
  | closeArray
  | openObject
  | closeObject
  | colon
  | comma
  | null
  | bool (value : Bool)
  | natural (value : Nat)
  | decimal (negative : Bool) (mantissa : Nat) (exponent : Int)
  /-- A string; nothing when an escape in it stands for no character. -/
  | string (value : Option String)
  deriving DecidableEq, Repr

/-- White space between tokens. -/
def isSpace (c : Char) : Bool :=
  c == ' ' || c == '\t' || c == '\n' || c == '\r'

/-- The value of a hexadecimal digit. -/
def hexValue? (c : Char) : Option Nat :=
  if c.isDigit then some (c.toNat - '0'.toNat)
  else if 'a' ≤ c ∧ c ≤ 'f' then some (c.toNat - 'a'.toNat + 10)
  else if 'A' ≤ c ∧ c ≤ 'F' then some (c.toNat - 'A'.toNat + 10)
  else none

/-- The value of four hexadecimal digits. -/
def unitValue? (a b c d : Char) : Option Nat := do
  return (((← hexValue? a) * 16 + (← hexValue? b)) * 16 +
    (← hexValue? c)) * 16 + (← hexValue? d)

/-- A part of a string: a character, or a 16-bit unit given by an escape. -/
inductive StringPart
  | char (value : Char)
  | unit (value : Nat)
  deriving DecidableEq, Repr

/-- The characters that the parts of a string stand for. -/
def charsOfParts : List StringPart → Option (List Char)
  | [] => some []
  | .char c :: rest => (charsOfParts rest).map (c :: ·)
  | .unit high :: rest =>
    if 0xD800 ≤ high ∧ high < 0xDC00 then
      match rest with
      | .unit low :: rest =>
        if 0xDC00 ≤ low ∧ low < 0xE000 then
          (charsOfParts rest).map
            (Char.ofNat
              (0x10000 + (high - 0xD800) * 0x400 + (low - 0xDC00)) :: ·)
        else none
      | _ => none
    else if 0xDC00 ≤ high ∧ high < 0xE000 then none
    else (charsOfParts rest).map (Char.ofNat high :: ·)

/-- The character that a one-letter escape stands for. -/
def escaped? : Char → Option Char
  | '"' => some '"'
  | '\\' => some '\\'
  | '/' => some '/'
  | 'b' => some '\x08'
  | 'f' => some '\x0c'
  | 'n' => some '\n'
  | 'r' => some '\r'
  | 't' => some '\t'
  | _ => none

/-- The parts of a string from behind its opening quote, and what follows its
closing quote. -/
def stringParts? : (text : List Char) → Option (List StringPart × Rest text)
  | [] => none
  | '"' :: _ => some ([], Rest.tail)
  | '\\' :: 'u' :: a :: b :: c :: d :: rest => do
    let value ← unitValue? a b c d
    let (parts, remaining) ← stringParts? rest
    return (.unit value :: parts,
      Rest.behind <| Rest.behind <| Rest.behind <| Rest.behind <|
        Rest.behind <| Rest.behind remaining)
  | '\\' :: letter :: rest => do
    let value ← escaped? letter
    let (parts, remaining) ← stringParts? rest
    return (.char value :: parts, Rest.behind (Rest.behind remaining))
  | c :: rest => do
    guard (0x20 ≤ c.toNat && c != '\\')
    let (parts, remaining) ← stringParts? rest
    return (.char c :: parts, Rest.behind remaining)

/-- The number that decimal digits spell. -/
def digitsValue (digits : List Char) : Nat :=
  digits.foldl (fun value c => 10 * value + (c.toNat - '0'.toNat)) 0

/-- Whether digits are a whole part: some, and no zero in front of others. -/
def isWhole (digits : List Char) : Bool :=
  match digits with
  | [] => false
  | ['0'] => true
  | first :: _ => first != '0'

/-- The exponent part of a number, empty or from its mark on. -/
def exponent? : List Char → Option Int
  | [] => some 0
  | mark :: rest => do
    guard (mark == 'e' || mark == 'E')
    let (negative, digits) :=
      match rest with
      | '+' :: digits => (false, digits)
      | '-' :: digits => (true, digits)
      | digits => (false, digits)
    guard (!digits.isEmpty && digits.all Char.isDigit)
    let value : Int := digitsValue digits
    return if negative then -value else value

/-- The number that a text spells from its first to its last character. -/
def number? (text : List Char) : Option Token := do
  let (negative, text) :=
    match text with
    | '-' :: rest => (true, rest)
    | text => (false, text)
  let whole := text.takeWhile Char.isDigit
  let rest := text.dropWhile Char.isDigit
  guard (isWhole whole)
  match rest with
  | [] =>
    return if negative then .decimal true (digitsValue whole) 0
      else .natural (digitsValue whole)
  | '.' :: rest =>
    let places := rest.takeWhile Char.isDigit
    guard (!places.isEmpty)
    let exponent ← exponent? (rest.dropWhile Char.isDigit)
    return .decimal negative (digitsValue (whole ++ places))
      (exponent - places.length)
  | rest => return .decimal negative (digitsValue whole) (← exponent? rest)

/-- Whether a character can stand inside a number. -/
def isNumberChar (c : Char) : Bool :=
  c.isDigit || c == '+' || c == '-' || c == '.' || c == 'e' || c == 'E'

/-- The token that a punctuation character is. -/
def punctuation? : Char → Option Token
  | '[' => some .openArray
  | ']' => some .closeArray
  | '\x7b' => some .openObject
  | '\x7d' => some .closeObject
  | ':' => some .colon
  | ',' => some .comma
  | _ => none

/-- The word, string or number that a text starts with, and what follows it. -/
def wordAt? : (text : List Char) → Option (Token × Rest text)
  | 'n' :: 'u' :: 'l' :: 'l' :: _ =>
    some (.null, Rest.behind <| Rest.behind <| Rest.behind Rest.tail)
  | 't' :: 'r' :: 'u' :: 'e' :: _ =>
    some (.bool true, Rest.behind <| Rest.behind <| Rest.behind Rest.tail)
  | 'f' :: 'a' :: 'l' :: 's' :: 'e' :: _ =>
    some (.bool false,
      Rest.behind <| Rest.behind <| Rest.behind <| Rest.behind Rest.tail)
  | '"' :: rest => do
    let (parts, remaining) ← stringParts? rest
    return (.string ((charsOfParts parts).map String.ofList),
      Rest.behind remaining)
  | c :: rest => do
    let token ← number? (c :: rest.takeWhile isNumberChar)
    return (token, ⟨rest.dropWhile isNumberChar,
      Nat.lt_succ_of_le (List.dropWhile_suffix isNumberChar).length_le⟩)
  | [] => none

/-- The token that starts with the character `c`, and what follows it. -/
def tokenAt?
    (c : Char)
    (rest : List Char) :
    Option (Token × Rest (c :: rest)) :=
  match punctuation? c with
  | some token => some (token, Rest.tail)
  | none => wordAt? (c :: rest)

/-- The tokens of a text, or nothing when some part of it is no token. -/
def tokens? : List Char → Option (List Token)
  | [] => some []
  | c :: rest =>
    if isSpace c then
      tokens? rest
    else
      match tokenAt? c rest with
      | none => none
      | some (token, ⟨remaining, _shorter⟩) =>
        (tokens? remaining).map (token :: ·)
termination_by text => text.length
decreasing_by
  · exact Nat.lt_succ_self _
  · exact _shorter

end Json
end DocLint
