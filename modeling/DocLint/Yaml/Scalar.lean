import DocLint.Json.Token
import DocLint.Yaml.Cursor

/-!
# Scalars of YAML texts

A scalar without quotes or in quotes may go on over several lines.  One line
break between two of its lines is read as a space, and of several the first is
left out; blanks around line breaks are left out too.
-/

namespace DocLint
namespace Yaml

/-- Blanks and line breaks between two parts of a scalar. -/
structure Gap where
  /-- The blanks, as long as there is no line break. -/
  blanks : List Char := []
  /-- Whether there is a line break. -/
  broken : Bool := false
  /-- The first line break, unless it is escaped. -/
  first : List Char := []
  /-- The other line breaks. -/
  others : List Char := []
  deriving Repr

namespace Gap

/-- The character that a line break is read as. -/
def breakChar (c : Char) : Char :=
  if c = '\u2028' ∨ c = '\u2029' then c else '\n'

/-- One blank more.  Blanks behind a line break are left out. -/
def blank (gap : Gap) (c : Char) : Gap :=
  if gap.broken then gap else { gap with blanks := gap.blanks ++ [c] }

/-- One line break more. -/
def lineBreak (gap : Gap) (c : Char) : Gap :=
  if gap.broken then { gap with others := gap.others ++ [breakChar c] }
  else { broken := true, first := [breakChar c] }

/-- An escaped line break. -/
def escapedBreak : Gap :=
  { broken := true }

/-- What a gap is read as. -/
def text (gap : Gap) : List Char :=
  if gap.broken then
    if gap.first = ['\n'] then
      if gap.others.isEmpty then [' '] else gap.others
    else gap.first ++ gap.others
  else gap.blanks

end Gap

/-- A scalar up to some character. -/
structure PartialScalar where
  /-- The characters that are read, the last one first. -/
  chars : List Char := []
  gap : Gap := {}
  column : Nat
  deriving Repr

namespace PartialScalar

/-- The gap is closed, and characters follow.  `width` characters of the text
were read. -/
def push
    (scalar : PartialScalar)
    (chars : List Char)
    (width : Nat) :
    PartialScalar :=
  { chars := (scalar.gap.text ++ chars).reverse ++ scalar.chars
    column := scalar.column + width }

/-- A blank. -/
def blank (scalar : PartialScalar) (c : Char) : PartialScalar :=
  { scalar with gap := scalar.gap.blank c, column := scalar.column + 1 }

/-- A line break. -/
def lineBreak (scalar : PartialScalar) (c : Char) : PartialScalar :=
  { scalar with gap := scalar.gap.lineBreak c, column := 0 }

/-- An escaped line break: blanks in front of it stay. -/
def escapedBreak (scalar : PartialScalar) : PartialScalar :=
  { chars := scalar.gap.text.reverse ++ scalar.chars
    gap := .escapedBreak
    column := 0 }

/-- The text that is read. -/
def text (scalar : PartialScalar) : String :=
  String.ofList scalar.chars.reverse

end PartialScalar

/-- The characters that end a plain scalar inside of brackets. -/
def isFlowIndicator (c : Char) : Bool :=
  c == ',' || c == '[' || c == ']' || c == '\x7b' || c == '\x7d'

/-- Whether a colon in front of a text must not stand in a plain scalar inside
of brackets. -/
def forbidsColon (text : List Char) : Bool :=
  text.head?.any fun c => c == '?' || isFlowIndicator c

/-- Whether a plain scalar ends in front of a character that is no blank. -/
def endsPlain
    (inFlow : Bool)
    (indent : Nat)
    (scalar : PartialScalar)
    (c : Char)
    (rest : List Char) :
    Bool :=
  let behindGap := scalar.gap.broken || !scalar.gap.blanks.isEmpty
  (behindGap && !inFlow && decide (scalar.column < indent)) ||
    (scalar.column == 0 && startsDocument (c :: rest)) ||
    ((behindGap || scalar.chars.isEmpty) && c == '#') ||
    (c == ':' && startsBlank rest) ||
    (inFlow && isFlowIndicator c)

/-- Read a plain scalar that goes on with a text, inside of brackets or not.
Behind a line break it has to be indented by `indent` columns, unless it stands
inside of brackets.  The result is the scalar and what follows it. -/
def plain?
    (inFlow : Bool)
    (indent : Nat)
    (scalar : PartialScalar)
    (text : List Char) :
    Option (PartialScalar × List Char) :=
  match text with
  | [] => some (scalar, [])
  | c :: rest =>
    match _found : lineBreak? (c :: rest) with
    | some (c, rest) => plain? inFlow indent (scalar.lineBreak c) rest
    | none =>
      if isBlank c then
        let isTab := scalar.gap.broken && c == '\t'
        if isTab && decide (scalar.column < indent) then none
        else plain? inFlow indent (scalar.blank c) rest
      else if endsPlain inFlow indent scalar c rest then
        some (scalar, c :: rest)
      else if inFlow && c == ':' && forbidsColon rest then none
      else plain? inFlow indent (scalar.push [c] 1) rest
termination_by text.length
decreasing_by
  · exact lineBreak?_length _found
  · simp
  · simp

/-- The character that a one-letter escape stands for. -/
def escaped? : Char → Option Char
  | '0' => some '\x00'
  | 'a' => some '\x07'
  | 'b' => some '\x08'
  | 't' => some '\t'
  | '\t' => some '\t'
  | 'n' => some '\n'
  | 'v' => some '\x0b'
  | 'f' => some '\x0c'
  | 'r' => some '\r'
  | 'e' => some '\x1b'
  | ' ' => some ' '
  | '"' => some '"'
  | '/' => some '/'
  | '\\' => some '\\'
  | 'N' => some '\u0085'
  | '_' => some '\u00a0'
  | 'L' => some '\u2028'
  | 'P' => some '\u2029'
  | _ => none

/-- How many hexadecimal digits follow a letter in an escape. -/
def escapeWidth? : Char → Option Nat
  | 'x' => some 2
  | 'u' => some 4
  | 'U' => some 8
  | _ => none

/-- The character of a code point given by some hexadecimal digits. -/
def charOfDigits? (width : Nat) (digits : List Char) : Option Char := do
  guard (digits.length == width)
  let value ← digits.foldlM
    (fun value digit => do return value * 16 + (← Json.hexValue? digit)) 0
  guard (value < 0xD800 || (0xE000 ≤ value && value ≤ 0x10FFFF))
  return Char.ofNat value

/-- Read an escape from behind its backslash, unless it is one of a line break:
its character, and how many characters of the text it takes up. -/
def escape? (text : List Char) : Option (Char × Nat) :=
  match text with
  | [] => none
  | letter :: rest =>
    match escapeWidth? letter with
    | some width =>
      (charOfDigits? width (rest.take width)).map fun value =>
        (value, width + 1)
    | none => (escaped? letter).map fun value => (value, 1)

/-- Read a quoted scalar that goes on with a text, up to its closing quote.  In
double quotes a backslash starts an escape, in single quotes a quote is written
twice.  The result is the scalar and what follows the closing quote. -/
def quoted?
    (quote : Char)
    (scalar : PartialScalar)
    (text : List Char) :
    Option (PartialScalar × List Char) :=
  match text with
  | [] => none
  | c :: rest =>
    match _found : lineBreak? (c :: rest) with
    | some (c, rest) => quoted? quote (scalar.lineBreak c) rest
    | none =>
      if isBlank c then quoted? quote (scalar.blank c) rest
      else if scalar.column == 0 && startsDocument (c :: rest) then none
      else if c = quote then
        if quote = '\'' ∧ rest.head? = some '\'' then
          quoted? quote (scalar.push ['\''] 2) (rest.drop 1)
        else some (scalar.push [] 1, rest)
      else if quote = '"' ∧ c = '\\' then
        match _foundBreak : lineBreak? rest with
        | some (_, rest) => quoted? quote scalar.escapedBreak rest
        | none =>
          match escape? rest with
          | none => none
          | some (value, width) =>
            quoted? quote (scalar.push [value] (width + 1)) (rest.drop width)
      else quoted? quote (scalar.push [c] 1) rest
termination_by text.length
decreasing_by
  · exact lineBreak?_length _found
  · simp
  · simp only [List.length_drop, List.length_cons]
    omega
  · exact Nat.lt_succ_of_lt (lineBreak?_length _foundBreak)
  · simp only [List.length_drop, List.length_cons]
    omega
  · simp

end Yaml
end DocLint
