import DocLint.Json.Basic
import DocLint.Record

/-!
# Records in JSON

A record is an object, or an array of its fields in order, of which the last may
be missing.  One of some words is a string, or an object with the word as its
only name and null behind it.
-/

namespace DocLint
namespace Json

/-- The value of a member.  It is an error if the member is given twice. -/
def member?
    (members : List (String × Json))
    (name : String) :
    Option (Option Json) :=
  match members.filter fun member => member.1 == name with
  | [] => some none
  | [member] => some (some member.2)
  | _ => none

/-- The fields of a record. -/
def fields? (names : List String) : Json → Option (List (Option Json))
  | .object members => names.mapM (member? members)
  | .array items =>
    if items.length ≤ names.length then
      some (items.map some ++ List.replicate (names.length - items.length) none)
    else none
  | _ => none

instance : DataFormat Json where
  fields? := fields?
  items?
    | .array items => some items
    | _ => none
  entries?
    | .object members => some members
    | _ => none
  text?
    | .string value => some value
    | _ => none
  natural?
    | .natural value => if value < numberLimit then some value else none
    | _ => none
  flag?
    | .bool value => some value
    | _ => none
  word?
    | .string value => some value
    | .object [(name, .null)] => some name
    | _ => none
  isNothing
    | .null => true
    | _ => false

end Json
end DocLint
