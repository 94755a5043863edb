import DocLint.Tag.Body
import DocLint.Text.Words

/-!
# Reading the body of a tag

The body of a tag is cut into a name, a key and a list of types, as far as the
kind of the tag has them.  All functions here cut a text without losing a
character: a part is given by what stands in front of it and the part itself.
-/

namespace DocLint

open Text

/-- A part of a text, with all that stands in front of it. -/
structure Cutting where
  before : List Char
  text : List Char
  deriving DecidableEq, Repr

/-- The part of a body's text that a cutting names. -/
def Body.cutting (body : Body) (cutting : Cutting) : TagText :=
  body.textAt cutting.before cutting.text

namespace Cutting

/-- The first word of a text that stands behind `before`. -/
def firstWord? (before rest : List Char) : Option Cutting :=
  match leadingWord (trimStart rest) with
  | [] => none
  | word => some ⟨before ++ leadingBlanks rest, word⟩

/-- A name without one comma or colon at its end, unless that is all of it. -/
def trimName (cutting : Cutting) : Cutting :=
  match cutting.text.reverse with
  | ',' :: c :: rest => ⟨cutting.before, (c :: rest).reverse⟩
  | ':' :: c :: rest => ⟨cutting.before, (c :: rest).reverse⟩
  | _ => cutting

end Cutting

/-- A text cut at the list of types in it. -/
structure TypeListCut where
  /-- Blanks in front of the word. -/
  blanks : List Char
  /-- The word in front of the brackets; empty when there is none. -/
  word : List Char
  /-- Blanks between the word and the brackets. -/
  gap : List Char
  /-- The text between the brackets. -/
  inside : List Char
  /-- What follows the closing bracket; nothing when it is missing. -/
  after : Option (List Char)
  deriving DecidableEq, Repr

namespace TypeListCut

/-- The text up to the closing bracket, from inside `depth` brackets more, and
what follows that bracket.  Square brackets nest. -/
def untilClosing (depth : Nat) : List Char → List Char × Option (List Char)
  | [] => ([], none)
  | c :: rest =>
    let push (result : List Char × Option (List Char)) :
        List Char × Option (List Char) :=
      (c :: result.1, result.2)
    if c = ']' then
      match depth with
      | 0 => ([], some rest)
      | depth + 1 => push (untilClosing depth rest)
    else if c = '[' then
      push (untilClosing (depth + 1) rest)
    else
      push (untilClosing depth rest)

/-- Cut a text at its list of types, if one stands in front of the second
word. -/
def ofChars? (text : List Char) : Option TypeListCut :=
  let isWordChar (c : Char) : Bool := !isBlank c && c != '['
  let behindBlanks := trimStart text
  let behindWord := behindBlanks.dropWhile isWordChar
  match trimStart behindWord with
  | '[' :: rest =>
    some
      { blanks := leadingBlanks text
        word := behindBlanks.takeWhile isWordChar
        gap := leadingBlanks behindWord
        inside := (untilClosing 0 rest).1
        after := (untilClosing 0 rest).2 }
  | _ => none

/-- All that stands in front of the text between the brackets. -/
def lead (cut : TypeListCut) : List Char :=
  cut.blanks ++ cut.word ++ cut.gap ++ ['[']

end TypeListCut

namespace Cutting

/-- From behind an opening square bracket to the last closing one on the same
line, if something stands between the two. -/
def untilLastClosing? (rest : List Char) : Option (List Char) :=
  let line := rest.takeWhile (· != '\n')
  let found := (line.reverse.dropWhile (· != ']')).reverse
  if found.length < 2 then none else some found

/-- The first text in square brackets behind `before`. -/
def firstBracketed? (before : List Char) : List Char → Option Cutting
  | [] => none
  | c :: rest =>
    let found := if c = '[' then untilLastClosing? rest else none
    match found with
    | some text => some ⟨before, c :: text⟩
    | none => firstBracketed? (before ++ [c]) rest

/-- Whether a text is the end of a reference from behind its opening
parenthesis: the word `see`, a word, and the closing parenthesis, which may end
that word. -/
def isReferenceTail (text : List Char) : Bool :=
  match trimStart text with
  | 's' :: 'e' :: 'e' :: rest =>
    let target := leadingWord (trimStart rest)
    let after := afterWord (trimStart rest)
    !(leadingBlanks rest).isEmpty &&
      ((!target.isEmpty && trim after == [')']) ||
        (decide (2 ≤ target.length) && target.getLast? == some ')' &&
          after.all isBlank))
  | _ => false

/-- Whether a text is a reference from its opening parenthesis on. -/
def isReference (text : List Char) : Bool :=
  match text with
  | '(' :: rest => isReferenceTail rest
  | _ => false

/-- The name in front of a reference, if a text is a reference and has one.  A
word that is followed by a reference is a name, even if the text is a reference
without it. -/
def reference? (text : List Char) : Option (Option Cutting) :=
  let behindBlanks := trimStart text
  let word := leadingWord behindBlanks
  if !word.isEmpty && !(leadingBlanks (afterWord behindBlanks)).isEmpty &&
      isReference (trimStart (afterWord behindBlanks)) then
    some (some ⟨leadingBlanks text, word⟩)
  else if isReference behindBlanks then
    some none
  else none

end Cutting

/-- What is read from the body of a tag. -/
structure TagFields where
  name : Option TagText := none
  key : Option TagText := none
  types : Option TagText := none
  misplacedTypes : Option TagText := none
  deriving DecidableEq, Repr

namespace TagFields

/-- Read types and a name, in either order, from the text behind `before`. -/
def typesAndName (body : Body) (before rest : List Char) : TagFields :=
  let trimmed (cutting : Cutting) : TagText := body.cutting cutting.trimName
  match TypeListCut.ofChars? rest with
  | some cut =>
    let name :=
      match cut.word, cut.after with
      | [], none => none
      | [], some after =>
        Cutting.firstWord? (before ++ cut.lead ++ cut.inside ++ [']']) after
      | word, _ => some ⟨before ++ cut.blanks, word⟩
    { name := name.map trimmed
      types := some (body.textAt (before ++ cut.lead) cut.inside) }
  | none =>
    { name := (Cutting.firstWord? before rest).map trimmed
      misplacedTypes := (Cutting.firstBracketed? before rest).map body.cutting }

/-- Read the name of a holder, then the types and name of an option. -/
def option (body : Body) : TagFields :=
  match Cutting.firstWord? [] body.chars with
  | none => {}
  | some word =>
    if word.text.head? = some '[' then
      { misplacedTypes :=
          (Cutting.firstBracketed? [] body.chars).map body.cutting }
    else
      let before := word.before ++ word.text
      let fields := typesAndName body before (afterWord (trimStart body.chars))
      { name := some (body.cutting word.trimName)
        key := fields.name
        types := fields.types
        misplacedTypes := fields.misplacedTypes }

/-- Read types that have no name. -/
def typesOnly (body : Body) : TagFields :=
  match TypeListCut.ofChars? body.chars with
  | some { word := [], blanks, gap, inside, .. } =>
    { types := some (body.textAt (blanks ++ gap ++ ['[']) inside) }
  | _ =>
    { misplacedTypes :=
        (Cutting.firstBracketed? [] body.chars).map body.cutting }

end TagFields

/-- Read a tag from its directive and its body. -/
def Tag.ofBody (lineIndex : Nat) (directive : String) (body : Body) : Tag :=
  let build (kind : TagKind) (fields : TagFields) : Tag :=
    { kind, directive, lineIndex
      name := fields.name
      key := fields.key
      types := fields.types
      misplacedTypes := fields.misplacedTypes
      text := String.ofList body.chars }
  match Cutting.reference? body.chars with
  | some name =>
    build .reference
      { name := name.map fun cutting => body.cutting cutting.trimName }
  | none =>
    let kind := TagKind.ofDirective directive
    build kind <|
      match kind with
      | .param | .yieldParam => TagFields.typesAndName body [] body.chars
      | .option => TagFields.option body
      | .returns | .raise | .yieldReturn => TagFields.typesOnly body
      | .reference | .overload | .other => {}

end DocLint
