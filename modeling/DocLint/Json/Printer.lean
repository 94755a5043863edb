import DocLint.Json.Basic

/-!
# Writing JSON texts

A value has a compact text, and a text of several lines in which every level is
indented by two spaces.  Both write members in the order in which the value
holds them.
-/

namespace DocLint
namespace Json

/-- The hexadecimal digit of a number below sixteen. -/
def hexDigit (n : Nat) : Char :=
  if n < 10 then Char.ofNat ('0'.toNat + n) else Char.ofNat ('a'.toNat + n - 10)

/-- The written form of a character inside a string. -/
def escapedChar (c : Char) : List Char :=
  if c = '"' then ['\\', '"']
  else if c = '\\' then ['\\', '\\']
  else if c = '\x08' then ['\\', 'b']
  else if c = '\x0c' then ['\\', 'f']
  else if c = '\n' then ['\\', 'n']
  else if c = '\r' then ['\\', 'r']
  else if c = '\t' then ['\\', 't']
  else if c.toNat < 0x20 then
    ['\\', 'u', '0', '0', hexDigit (c.toNat / 16), hexDigit (c.toNat % 16)]
  else [c]

/-- The written form of a string. -/
def stringChars (text : String) : List Char :=
  '"' :: text.toList.flatMap escapedChar ++ ['"']

/-- The decimal digits of a number. -/
def naturalChars (n : Nat) : List Char :=
  Nat.toDigits 10 n

/-- The written form of a number that is not written with digits alone. -/
def decimalChars
    (negative : Bool)
    (mantissa : Nat)
    (exponent : Int) :
    List Char :=
  (if negative then ['-'] else []) ++ naturalChars mantissa ++
    'e' :: (if exponent < 0 then ['-'] else []) ++ naturalChars exponent.natAbs

/-- The written form of an unreadable value: half of a pair of surrogates. -/
def unreadableChars : List Char :=
  "\"\\ud800\"".toList

mutual

/-- The compact text of a value. -/
def compactChars : Json → List Char
  | null => "null".toList
  | bool true => "true".toList
  | bool false => "false".toList
  | natural value => naturalChars value
  | decimal negative mantissa exponent =>
    decimalChars negative mantissa exponent
  | string value => stringChars value
  | array [] => ['[', ']']
  | array (item :: rest) =>
    '[' :: compactChars item ++ compactRest rest ++ [']']
  | object [] => ['\x7b', '\x7d']
  | object ((name, value) :: rest) =>
    '\x7b' :: stringChars name ++ ':' :: compactChars value ++
      compactMembers rest ++ ['\x7d']
  | unreadable => unreadableChars

/-- Further items of an array, each behind a comma. -/
def compactRest : List Json → List Char
  | [] => []
  | item :: rest => ',' :: compactChars item ++ compactRest rest

/-- Further members of an object, each behind a comma. -/
def compactMembers : List (String × Json) → List Char
  | [] => []
  | (name, value) :: rest =>
    ',' :: stringChars name ++ ':' :: compactChars value ++ compactMembers rest

end

/-- A line break and the indentation of a level. -/
def newline (level : Nat) : List Char :=
  '\n' :: List.replicate (2 * level) ' '

mutual

/-- The text of a value over several lines, for a value that starts on the given
level. -/
def prettyChars (level : Nat) : Json → List Char
  | array [] => ['[', ']']
  | array (item :: rest) =>
    '[' :: newline (level + 1) ++ prettyChars (level + 1) item ++
      prettyRest (level + 1) rest ++ newline level ++ [']']
  | object [] => ['\x7b', '\x7d']
  | object ((name, value) :: rest) =>
    '\x7b' :: newline (level + 1) ++ stringChars name ++ ": ".toList ++
      prettyChars (level + 1) value ++ prettyMembers (level + 1) rest ++
      newline level ++ ['\x7d']
  | null => "null".toList
  | bool true => "true".toList
  | bool false => "false".toList
  | natural value => naturalChars value
  | decimal negative mantissa exponent =>
    decimalChars negative mantissa exponent
  | string value => stringChars value
  | unreadable => unreadableChars

/-- Further items of an array, each behind a comma and on its own line. -/
def prettyRest (level : Nat) : List Json → List Char
  | [] => []
  | item :: rest =>
    ',' :: newline level ++ prettyChars level item ++ prettyRest level rest

/-- Further members of an object, each behind a comma and on its own line. -/
def prettyMembers (level : Nat) : List (String × Json) → List Char
  | [] => []
  | (name, value) :: rest =>
    ',' :: newline level ++ stringChars name ++ ": ".toList ++
      prettyChars level value ++ prettyMembers level rest

end

/-- The compact text of a value. -/
def compact (value : Json) : String :=
  String.ofList (compactChars value)

/-- The text of a value over several lines. -/
def pretty (value : Json) : String :=
  String.ofList (prettyChars 0 value)

end Json
end DocLint
