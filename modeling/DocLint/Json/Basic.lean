/-!
# JSON values

A JSON value keeps its object members in the order of the text, repeated names
included, because readers of records have to see both.  Natural numbers are
apart from all other numbers: they are the only ones that data of this library
holds.
-/

namespace DocLint

/-- A JSON value. -/
inductive Json
  | null
  | bool (value : Bool)
  /-- A number written with digits alone. -/
  | natural (value : Nat)
  /-- Any other number: a sign, and `mantissa * 10 ^ exponent`. -/
  | decimal (negative : Bool) (mantissa : Nat) (exponent : Int)
  | string (value : String)
  | array (items : List Json)
  | object (members : List (String × Json))
  /-- A string with an escape that stands for no character, or an object with
  such a name.  It can be passed over, but it cannot be read. -/
  | unreadable
  deriving Repr, Inhabited

end DocLint
