import DocLint.Text.Words

/-!
# Literals as default values

The source text of a parameter's default value is classified by how it is
written, without reading it in full.  The forms are tried in a fixed order, and
the first that fits decides.
-/

namespace DocLint

open Text

/-- The kind of a default value. -/
inductive Literal
  | integer
  | float
  | string
  | boolean
  | symbol
  | array
  | hash
  | nil
  | regexp
  | range
  /-- Anything that is no literal. -/
  | other
  deriving DecidableEq, Repr

namespace Literal

/-- The name of a kind. -/
def name : Literal → String
  | integer => "Integer"
  | float => "Float"
  | string => "String"
  | boolean => "Boolean"
  | symbol => "Symbol"
  | array => "Array"
  | hash => "Hash"
  | nil => "Nil"
  | regexp => "Regexp"
  | range => "Range"
  | other => "Other"

/-- The types that document a parameter with such a default value. -/
def documentedType : Literal → String
  | integer => "Integer"
  | float => "Float"
  | string => "String"
  | boolean => "Boolean"
  | symbol => "Symbol"
  | array => "Array<Object>"
  | hash => "Hash\x7bSymbol => Object\x7d"
  | nil => "Object, nil"
  | regexp => "Regexp"
  | range => "Range[Object]"
  | other => "Object"

/-- A text without a sign in front. -/
def dropSign : List Char → List Char
  | '+' :: rest => rest
  | '-' :: rest => rest
  | text => text

/-- Whether a character may follow the first digit of a number. -/
def isDigitOrUnderscore (c : Char) : Bool :=
  isDigit c || c == '_'

/-- What follows a run of digits, if a text starts with one.  Underscores may
stand behind the first digit. -/
def afterDigits? : List Char → Option (List Char)
  | c :: rest =>
    if isDigit c then some (rest.dropWhile isDigitOrUnderscore) else none
  | [] => none

/-- Whether a text is not empty and made of some characters only. -/
def isRunOf (accepts : Char → Bool) (text : List Char) : Bool :=
  !text.isEmpty && text.all accepts

/-- Whether a character is a hexadecimal digit or an underscore. -/
def isHexadecimal (c : Char) : Bool :=
  c.isDigit || (decide ('a' ≤ c) && decide (c ≤ 'f')) ||
    (decide ('A' ≤ c) && decide (c ≤ 'F')) || c == '_'

/-- Whether a text is an integer without its sign: decimal, or behind a mark of
its base. -/
def isUnsignedInteger (text : List Char) : Bool :=
  let based :=
    match text with
    | '0' :: mark :: digits =>
      if mark = 'x' ∨ mark = 'X' then isRunOf isHexadecimal digits
      else if mark = 'b' ∨ mark = 'B' then
        isRunOf (fun c => c == '0' || c == '1' || c == '_') digits
      else if mark = 'o' ∨ mark = 'O' then
        isRunOf
          (fun c => (decide ('0' ≤ c) && decide (c ≤ '7')) || c == '_') digits
      else false
    | _ => false
  based || afterDigits? text == some []

/-- Whether a text is an integer. -/
def isInteger (text : List Char) : Bool :=
  isUnsignedInteger (dropSign text)

/-- Whether a text is an exponent: its mark, a sign perhaps, and digits. -/
def isExponent : List Char → Bool
  | mark :: rest =>
    (mark == 'e' || mark == 'E') && isRunOf isDigit (dropSign rest)
  | [] => false

/-- Whether a text is a number with a fraction, an exponent, or both. -/
def isFloat (text : List Char) : Bool :=
  match afterDigits? (dropSign text) with
  | some ('.' :: rest) =>
    match afterDigits? rest with
    | some [] => true
    | some rest => isExponent rest
    | none => false
  | some rest => isExponent rest
  | none => false

/-- Whether a text stands between two of the same quotes, with none of them
inside. -/
def isPlainString (text : List Char) : Bool :=
  match text with
  | quote :: rest =>
    (quote == '"' || quote == '\'') && rest.getLast? == some quote &&
      rest.dropLast.all (· != quote)
  | [] => false

/-- What follows an end of a range, if a text starts with one: characters that
are accepted, and a fraction perhaps. -/
def afterEndpoint?
    (accepts : Char → Bool)
    (text : List Char) :
    Option (List Char) :=
  if (text.takeWhile accepts).isEmpty then none
  else
    match text.dropWhile accepts with
    | '.' :: rest =>
      match afterDigits? rest with
      | some after => some after
      | none => some ('.' :: rest)
    | rest => some rest

/-- Whether a text goes on as a range behind its dots: an end perhaps, and a
parenthesis perhaps. -/
def isRangeTail (text : List Char) : Bool :=
  let text := trimStart text
  let accepts (c : Char) : Bool :=
    c != '.' && !isBlank c && c != '(' && c != ')'
  let text := trimStart ((afterEndpoint? accepts text).getD text)
  text == [] || text == [')']

/-- Whether a text is a range, apart from an opening parenthesis: an end
perhaps, two dots or three, and another end perhaps. -/
def isRangeBody (text : List Char) : Bool :=
  let text := trimStart text
  let accepts (c : Char) : Bool := c != '.' && !isBlank c
  match ((afterEndpoint? accepts text).map trimStart).getD text with
  | '.' :: '.' :: '.' :: rest => isRangeTail rest
  | '.' :: '.' :: rest => isRangeTail rest
  | _ => false

/-- Whether a text is a range.  An opening parenthesis may belong to the first
end. -/
def isRange (text : List Char) : Bool :=
  isRangeBody text ||
    match text with
    | '(' :: rest => isRangeBody rest
    | _ => false

/-- Whether a text starts with another. -/
def startsWith (start : String) (text : List Char) : Bool :=
  start.toList.isPrefixOf text

/-- Classify the source text of a default value. -/
def classify (source : String) : Literal :=
  let text := trim source.toList
  let starts (start : String) : Bool := startsWith start text
  if text = "nil".toList then nil
  else if text = "true".toList ∨ text = "false".toList then boolean
  else if isInteger text then integer
  else if isFloat text then float
  else if isPlainString text then string
  else if (starts ":" && !starts "::") || starts "%s" then symbol
  else if starts "[" || starts "%w" || starts "%i" then array
  else if starts "\x7b" then hash
  else if starts "/" || starts "%r" then regexp
  else if isRange text then range
  else if starts "\"" || starts "'" || starts "%q" || starts "%Q" ||
      starts "<<" then string
  else other

end Literal
end DocLint
