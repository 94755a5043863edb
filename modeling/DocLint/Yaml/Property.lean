import DocLint.Json.Token
import DocLint.Yaml.Cursor

/-!
# Anchors, tags and directives

An anchor gives a node a name, by which it can be referred to later.  A tag says
what kind of value a node is.  It starts with a handle, which stands for the
start of tags that belong together; directives in front of a document say what
handles stand for and which version of YAML the document is written in.
-/

namespace DocLint
namespace Yaml

/-- The characters of names. -/
def isNameChar (c : Char) : Bool :=
  c.isAlphanum || c == '_' || c == '-'

/-- Whether the name of an anchor may end in front of a text. -/
def endsName (text : List Char) : Bool :=
  startsBlank text ||
    text.head?.any ['?', ':', ',', ']', '\x7d', '%', '@', '\x60'].contains

/-- Read the name of an anchor, from behind its mark. -/
def anchorName? (text : List Char) : Option (String × List Char) :=
  let name := text.takeWhile isNameChar
  let rest := text.dropWhile isNameChar
  if name.isEmpty || !endsName rest then none
  else some (String.ofList name, rest)

/-! ## Tags -/

/-- A tag, by its bytes. -/
abbrev Tag := List UInt8

/-- The bytes of a text. -/
def Tag.ofText (text : String) : Tag :=
  text.toUTF8.toList

/-- What handles stand for without a directive. -/
def defaultHandles : List (String × Tag) :=
  [("!", .ofText "!"), ("!!", .ofText "tag:yaml.org,2002:")]

/-- The characters that a tag is written with.  Commas and square brackets are
such characters only in angle brackets. -/
def isTagChar (enclosed : Bool) (c : Char) : Bool :=
  isNameChar c ||
    [';', '/', '?', ':', '@', '&', '=', '+', '$', '.', '!', '~', '*', '\'', '(',
      ')'].contains c ||
    (enclosed && [',', '[', ']'].contains c)

/-- How many bytes follow a byte that starts a character. -/
def followers? (byte : Nat) : Option Nat :=
  if byte < 0x80 then some 0
  else if byte < 0xC0 then none
  else if byte < 0xE0 then some 1
  else if byte < 0xF0 then some 2
  else if byte < 0xF8 then some 3
  else none

/-- Read the part of a tag at the start of a text.  A percent sign and two
digits stand for a byte; `pending` more such bytes belong to a character. -/
def tagPart?
    (enclosed : Bool)
    (pending : Nat) :
    List Char → Option (Tag × List Char)
  | '%' :: high :: low :: rest => do
    let byte := (← Json.hexValue? high) * 16 + (← Json.hexValue? low)
    let pending ←
      match pending with
      | 0 => followers? byte
      | count + 1 => if byte / 0x40 = 2 then some count else none
    let (bytes, rest) ← tagPart? enclosed pending rest
    return (byte.toUInt8 :: bytes, rest)
  | c :: rest =>
    if pending ≠ 0 ∨ c = '%' then none
    else if isTagChar enclosed c then do
      let (bytes, rest) ← tagPart? enclosed 0 rest
      return (c.toUInt8 :: bytes, rest)
    else some ([], c :: rest)
  | [] => if pending = 0 then some ([], []) else none

/-- Read a part of a tag that must not be empty. -/
def tagPartOnce?
    (enclosed : Bool)
    (text : List Char) :
    Option (Tag × List Char) := do
  let (bytes, rest) ← tagPart? enclosed 0 text
  if bytes.isEmpty then none else return (bytes, rest)

/-- Read a tag from behind its exclamation mark, given what handles stand for: a
whole tag in angle brackets, what follows a handle between two exclamation
marks, or what follows the exclamation mark alone. -/
def tag?
    (handles : List (String × Tag))
    (text : List Char) :
    Option (Tag × List Char) := do
  match text with
  | '<' :: rest =>
    match ← tagPartOnce? true rest with
    | (tag, '>' :: rest) => return (tag, rest)
    | _ => none
  | text =>
    let name := text.takeWhile isNameChar
    match text.dropWhile isNameChar with
    | '!' :: rest =>
      let start ← handles.lookup ("!" ++ String.ofList name ++ "!")
      let (bytes, rest) ← tagPartOnce? false rest
      return (start ++ bytes, rest)
    | rest =>
      -- A name that is no handle is the start of the tag itself.
      let (bytes, rest) ← tagPart? false 0 rest
      match name.map Char.toUInt8 ++ bytes with
      | [] => return (.ofText "!", rest)
      | bytes => return ((← handles.lookup "!") ++ bytes, rest)

/-! ## Directives -/

/-- What a directive says. -/
inductive Directive
  | version
  | handle (name : String) (tag : Tag)
  deriving DecidableEq, Repr

/-- Read a number of up to nine digits. -/
def versionNumber? (text : List Char) : Option (Nat × List Char) :=
  let digits := text.takeWhile Char.isDigit
  if digits.isEmpty || decide (9 < digits.length) then none
  else
    let value := digits.foldl
      (fun value digit => value * 10 + (digit.toNat - '0'.toNat)) 0
    some (value, text.dropWhile Char.isDigit)

/-- Read the version of YAML.  There are two that can be read. -/
def version? (text : List Char) : Option (Directive × List Char) := do
  match ← versionNumber? (text.dropWhile isBlank) with
  | (1, '.' :: rest) =>
    match ← versionNumber? rest with
    | (1, rest) => return (.version, rest)
    | (2, rest) => return (.version, rest)
    | _ => none
  | _ => none

/-- Read a handle from behind its exclamation mark: the mark alone, or a name
and another exclamation mark. -/
def handle? (text : List Char) : Option (String × List Char) :=
  match text.takeWhile isNameChar, text.dropWhile isNameChar with
  | name, '!' :: rest => some ("!" ++ String.ofList name ++ "!", rest)
  | [], rest => some ("!", rest)
  | _, _ => none

/-- Read what a handle stands for. -/
def handleTag? (text : List Char) : Option (Directive × List Char) := do
  match text.dropWhile isBlank with
  | '!' :: rest =>
    let (name, rest) ← handle? rest
    guard (rest.head?.any isBlank)
    let (tag, rest) ← tagPartOnce? true (rest.dropWhile isBlank)
    if startsBlank rest then return (.handle name tag, rest) else none
  | _ => none

/-- Read a directive from behind its percent sign, and the rest of its line. -/
def directive? (text : List Char) : Option (Directive × List Char) := do
  let name := text.takeWhile isNameChar
  let rest := text.dropWhile isNameChar
  guard (startsBlank rest)
  let (directive, rest) ←
    match String.ofList name with
    | "YAML" => version? rest
    | "TAG" => handleTag? rest
    | _ => none
  return (directive, ← endLine? rest)

end Yaml
end DocLint
