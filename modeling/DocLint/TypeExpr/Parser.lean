import DocLint.Rest
import DocLint.TypeExpr.Basic
import DocLint.TypeExpr.Token
import DocLint.Text.Words

/-!
# Reading type expressions

A text is read as alternatives divided by separators:

List := Type (separator Type)* Type := Name | Name?  "<" List ">" | Name?  "("
List ")" | Name?  "{" List "=>" List "}"

Brackets nest at most `maxNesting` levels.  Each alternative keeps the byte
positions it covers, and an error tells what is wrong at which byte position.
-/

namespace DocLint

open Text

/-- How many levels brackets may nest. -/
def maxNesting : Nat := 64

/-- What is wrong with a text that should be a list of type expressions. -/
inductive SyntaxError.Cause
  /-- A character starts no token. -/
  | invalidCharacter (character : Char)
  /-- A name stands where the list should end or go on. -/
  | expectingEnd (name : String)
  /-- No name or bracket stands where a type should start; nothing is found at
  the end. -/
  | expectingName (found : Option TokenKind)
  /-- Another token is needed; none is needed at the end of the list. -/
  | unexpected (expected : Option TokenKind) (found : TokenKind)
  /-- The text ends inside brackets. -/
  | unclosed (bracket : Bracket)
  /-- Braces go on without an arrow. -/
  | missingArrow (found : TokenKind)
  /-- Brackets nest too deep. -/
  | tooDeep
  deriving DecidableEq, Repr

/-- What is wrong, and at which byte position. -/
structure SyntaxError where
  cause : SyntaxError.Cause
  offset : Nat
  deriving DecidableEq, Repr

namespace SyntaxError

/-- What is told about an error. -/
def message (error : SyntaxError) : String :=
  match error.cause with
  | .invalidCharacter character =>
    "invalid character at " ++ String.ofList [character]
  | .expectingEnd name => "expecting END, got name '" ++ name ++ "'"
  | .expectingName found =>
    "expecting name, got " ++ (found.map TokenKind.describe).getD "end of input"
  | .unexpected expected found =>
    "expecting " ++ (expected.map TokenKind.describe).getD "end of type" ++
      ", got " ++ found.describe
  | .unclosed bracket => "unclosed '" ++ String.ofList [bracket.openChar] ++ "'"
  | .missingArrow found =>
    "expecting '=>' in hash collection, got " ++ found.describe
  | .tooDeep => "type nesting exceeds " ++ toString maxNesting ++ " levels"

end SyntaxError

/-- The error of needing a token where the tokens end. -/
def Ending.error (ending : Ending) (cause : SyntaxError.Cause) : SyntaxError :=
  match ending with
  | .endOfText offset => ⟨cause, offset⟩
  | .invalid character offset => ⟨.invalidCharacter character, offset⟩

/-- A type expression with the byte positions where it starts and stops. -/
structure Alternative where
  type : TypeExpr
  start : Nat
  stop : Nat
  deriving Repr

namespace Parser

/-- The outcome of reading from a list of tokens. -/
abbrev Outcome (α : Type) (tokens : List Token) :=
  Except SyntaxError (α × Rest tokens)

/-- Read one token that has to be there; the result is where it stops. -/
def expect
    (ending : Ending)
    (wanted : TokenKind)
    (bracket : Bracket) :
    (tokens : List Token) → Outcome Nat tokens
  | [] => .error (ending.error (.unclosed bracket))
  | token :: rest =>
    if token.kind = wanted then
      .ok (token.stop, ⟨rest, Nat.lt_succ_self _⟩)
    else
      match token.kind with
      | .name name => .error ⟨.expectingEnd name, token.start⟩
      | found =>
        if wanted = .arrow then .error ⟨.missingArrow found, token.start⟩
        else .error ⟨.unexpected (some wanted) found, token.start⟩

/-- Read items divided by separators, as many as there are. -/
def separated
    (ending : Ending)
    (item : (tokens : List Token) → Outcome Alternative tokens)
    (tokens : List Token) :
    Outcome (List Alternative) tokens :=
  match item tokens with
  | .error error => .error error
  | .ok (first, ⟨[], shorter⟩) =>
    match ending with
    | .endOfText _ => .ok ([first], ⟨[], shorter⟩)
    | .invalid character offset => .error ⟨.invalidCharacter character, offset⟩
  | .ok (first, ⟨token :: rest, shorter⟩) =>
    if token.kind = .separator then
      match separated ending item rest with
      | .error error => .error error
      | .ok (others, ⟨remaining, less⟩) =>
        .ok (first :: others,
          ⟨remaining, by simp only [List.length_cons] at shorter; omega⟩)
    else
      .ok ([first], ⟨token :: rest, shorter⟩)
termination_by tokens.length
decreasing_by simp only [List.length_cons] at shorter; omega

/-- Read what stands between brackets, and the closing bracket.  The result is
the collection and where its closing bracket stops. -/
def bracketed
    (ending : Ending)
    (item : (tokens : List Token) → Outcome Alternative tokens)
    (name : String)
    (bracket : Bracket)
    (tokens : List Token) :
    Outcome (TypeExpr × Nat) tokens := do
  let (first, ⟨rest, less⟩) ← separated ending item tokens
  let types := first.map Alternative.type
  match bracket with
  | .angle =>
    let (stop, ⟨rest, less'⟩) ← expect ending (.closing .angle) .angle rest
    return ((.generic name types, stop), ⟨rest, Nat.lt_trans less' less⟩)
  | .paren =>
    let (stop, ⟨rest, less'⟩) ← expect ending (.closing .paren) .paren rest
    return ((.tuple name types, stop), ⟨rest, Nat.lt_trans less' less⟩)
  | .brace =>
    let (_, ⟨rest, less'⟩) ← expect ending .arrow .brace rest
    let (second, ⟨rest, less''⟩) ← separated ending item rest
    let (stop, ⟨rest, less'''⟩) ← expect ending (.closing .brace) .brace rest
    return ((.mapping name types (second.map Alternative.type), stop),
      ⟨rest, Nat.lt_trans less''' <|
        Nat.lt_trans less'' <| Nat.lt_trans less' less⟩)

/-- Read one type expression, given how to read a collection from behind its
opening bracket. -/
def typeWith
    (ending : Ending)
    (collection : (name : String) → (start : Nat) → Bracket → (offset : Nat) →
      (inner : List Token) → Outcome Alternative inner) :
    (tokens : List Token) → Outcome Alternative tokens
  | [] => .error (ending.error (.expectingName none))
  | ⟨.name name, start, stop⟩ :: [] =>
    match ending with
    | .endOfText _ => .ok (⟨.simple name, start, stop⟩, ⟨[], by simp⟩)
    | .invalid character offset => .error ⟨.invalidCharacter character, offset⟩
  | ⟨.name name, start, stop⟩ :: token :: rest =>
    match token.kind with
    | .opening bracket => do
      let (alternative, ⟨rest, less⟩) ←
        collection name start bracket token.start rest
      return (alternative, ⟨rest, Nat.lt_succ_of_lt (Nat.lt_succ_of_lt less)⟩)
    | _ =>
      .ok (⟨.simple name, start, stop⟩, ⟨token :: rest, Nat.lt_succ_self _⟩)
  | ⟨.opening bracket, start, _⟩ :: inner => do
    let (alternative, ⟨rest, less⟩) ← collection "" start bracket start inner
    return (alternative, ⟨rest, Nat.lt_succ_of_lt less⟩)
  | token :: _ => .error ⟨.expectingName (some token.kind), token.start⟩

/-- Read a collection from behind its opening bracket, which stands at `offset`,
when brackets may nest the given number of levels from it on. -/
def collection
    (ending : Ending) :
    (levels : Nat) → (name : String) → (start : Nat) → Bracket →
      (offset : Nat) → (inner : List Token) → Outcome Alternative inner
  | 0, _, _, _, offset, _ => .error ⟨.tooDeep, offset⟩
  | levels + 1, name, start, bracket, _, inner => do
    let ((type, stop), rest) ←
      bracketed ending (typeWith ending (collection ending levels)) name bracket
        inner
    return (⟨type, start, stop⟩, rest)

/-- Read one type expression in which brackets may nest the given number of
levels. -/
def type
    (ending : Ending)
    (levels : Nat) :
    (tokens : List Token) → Outcome Alternative tokens :=
  typeWith ending (collection ending levels)

end Parser

namespace TypeExpr

/-- Read alternatives with their positions.  A text of white space has none. -/
def parseAlternatives
    (text : List Char) :
    Except SyntaxError (List Alternative) :=
  if text.all isBlank then
    .ok []
  else
    let lexed := Lexed.ofChars 0 text
    match Parser.separated lexed.ending (Parser.type lexed.ending maxNesting)
        lexed.tokens with
    | .error error => .error error
    | .ok (alternatives, ⟨[], _⟩) => .ok alternatives
    | .ok (_, ⟨token :: _, _⟩) =>
      match token.kind with
      | .name name => .error ⟨.expectingEnd name, token.start⟩
      | found => .error ⟨.unexpected none found, token.start⟩

/-- Read alternatives. -/
def parse (text : List Char) : Except SyntaxError (List TypeExpr) :=
  (parseAlternatives text).map fun alternatives =>
    alternatives.map Alternative.type

end TypeExpr
end DocLint
