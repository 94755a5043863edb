import DocLint.Record
import DocLint.Yaml.Node

/-!
# Records in YAML

A record is a mapping.  A value that is left out stands for a record, a list or
a table without anything in it, and for the empty text.  Numbers and truth
values are scalars without quotes.  One of some words is a scalar, or the word
as a tag with nothing behind it.  A reference stands for the node it refers to.
-/

namespace DocLint
namespace Yaml

/-- The value of a digit in a base. -/
def digitValue? (base : Nat) (c : Char) : Option Nat := do
  let value ← Json.hexValue? c
  if value < base then some value else none

/-- The number that digits spell in a base. -/
def digitsValue? (base : Nat) (digits : List Char) : Option Nat := do
  guard (!digits.isEmpty)
  digits.foldlM
    (fun value digit => do return value * base + (← digitValue? base digit)) 0

/-- The natural number that a scalar without quotes spells: decimal without
zeros in front, or behind a mark of its base, and with a plus sign perhaps. -/
def naturalOf? (text : List Char) : Option Nat :=
  let unsigned :=
    match text with
    | '+' :: rest => rest
    | text => text
  match unsigned with
  | '0' :: 'x' :: digits => digitsValue? 16 digits
  | '0' :: 'o' :: digits => digitsValue? 8 digits
  | '0' :: 'b' :: digits => digitsValue? 2 digits
  | '0' :: _ :: _ => none
  | digits => digitsValue? 10 digits

/-- Words for nothing. -/
def isNullWord (text : String) : Bool :=
  ["~", "null", "Null", "NULL"].contains text

/-- The word that a tag gives, behind an exclamation mark. -/
def Tag.word? : Tag → Option String
  | 0x21 :: bytes => String.fromUTF8? ⟨bytes.toArray⟩
  | _ => none

/-- A part of a document, and what references in it stand for. -/
structure Value where
  /-- The nodes with anchors in the document, the last one first. -/
  anchors : List (Nat × Node)
  node : Node
  deriving Repr

namespace Value

/-- A node inside of a value. -/
def part (value : Value) (node : Node) : Value :=
  { value with node }

/-- The node without its anchor, or the node it refers to. -/
def content (value : Value) : Node :=
  match value.node with
  | .anchored _ node => node
  | .reference number => (value.anchors.lookup number).getD .empty
  | node => node

/-- The text of a scalar. -/
def text? (value : Value) : Option String :=
  match value.content with
  | .scalar text _ _ => some text
  | _ => none

/-- The text of a scalar that may be a number or a truth value: one without
quotes, or one laid out in lines behind a bar and tagged as such a value. -/
def plainText? (tag : String) (value : Value) : Option String :=
  match value.content with
  | .scalar text .plain _ => some text
  | .scalar text .literal (some given) =>
    if given = .ofText tag then some text else none
  | _ => none

/-- Whether a scalar is left out. -/
def isEmpty (value : Value) : Bool :=
  match value.content with
  | .scalar "" .plain _ => true
  | _ => false

/-- The items of a sequence. -/
def items? (value : Value) : Option (List Value) :=
  match value.content with
  | .sequence items => some (items.map value.part)
  | _ => if value.isEmpty then some [] else none

/-- The entries of a mapping by the texts of their keys. -/
def entries? (value : Value) : Option (List (String × Value)) :=
  match value.content with
  | .mapping entries =>
    entries.mapM fun entry => do
      return (← (value.part entry.1).text?, value.part entry.2)
  | _ => if value.isEmpty then some [] else none

/-- The value of a field.  It is an error if the field is given twice. -/
def field?
    (entries : List (String × Value))
    (name : String) :
    Option (Option Value) :=
  match entries.filter fun entry => entry.1 == name with
  | [] => some none
  | [entry] => some (some entry.2)
  | _ => none

/-- One of some words.  Behind a tag with the word nothing may stand. -/
def word? (value : Value) : Option String :=
  match value.content with
  | .scalar text style tag =>
    match tag.bind Tag.word? with
    | some word =>
      if style = .plain ∧ (text.isEmpty ∨ isNullWord text) then some word
      else none
    | none => some text
  | _ => none

/-- Whether a value stands for nothing.  With a tag it does so only if it is
tagged as nothing. -/
def isNothing (value : Value) : Bool :=
  match value.content with
  | .scalar text .plain none => text.isEmpty || isNullWord text
  | .scalar text .plain (some tag) =>
    tag == .ofText "tag:yaml.org,2002:null" && isNullWord text
  | _ => false

instance : DataFormat Value where
  fields? names value := do
    let entries ← value.entries?
    names.mapM (field? entries)
  items? := items?
  entries? := entries?
  text? := text?
  natural? value := do
    let text ← value.plainText? "tag:yaml.org,2002:int"
    let number ← naturalOf? text.toList
    if number < numberLimit then some number else none
  flag? value := do
    let text ← value.plainText? "tag:yaml.org,2002:bool"
    if ["true", "True", "TRUE"].contains text then some true
    else if ["false", "False", "FALSE"].contains text then some false
    else none
  word? := word?
  isNothing := isNothing

end Value

/-- The document of a text. -/
def parse? (text : List Char) : Option Value := do
  let node ← Node.ofTokens? (← tokens? text)
  return { anchors := node.anchors.reverse, node }

end Yaml
end DocLint
