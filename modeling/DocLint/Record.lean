/-!
# Reading records

Configurations, manifests and results are records, and records are written in
several formats.  A format says how to look into a value: for the fields of a
record, the items of a list, or a plain value.  What a record holds is then said
once for all formats.
-/

namespace DocLint

/-- The least number that no record holds. -/
def numberLimit : Nat := 0x10000000000000000

/-- A format in which records are written, by its values. -/
class DataFormat (ν : Type) where
  /-- The values of the named fields, nothing for a field that is absent.  Other
  fields are passed over, and a field that is given twice is an error. -/
  fields? : List String → ν → Option (List (Option ν))
  /-- The items of a list. -/
  items? : ν → Option (List ν)
  /-- The entries of a table in the order of the text. -/
  entries? : ν → Option (List (String × ν))
  /-- A text. -/
  text? : ν → Option String
  /-- A natural number below the limit. -/
  natural? : ν → Option Nat
  /-- A truth value. -/
  flag? : ν → Option Bool
  /-- One of some given words. -/
  word? : ν → Option String
  /-- Whether the value stands for nothing. -/
  isNothing : ν → Bool

namespace DataFormat

variable {ν α : Type}

/-- A field that has to be there. -/
def required (read : ν → Option α) (field : Option ν) : Option α :=
  field.bind read

/-- A field with a value for its absence. -/
def withDefault (default : α) (read : ν → Option α) : Option ν → Option α
  | none => some default
  | some value => read value

/-- A field that may be absent or stand for nothing. -/
def optional [DataFormat ν] (read : ν → Option α) : Option ν → Option (Option α)
  | none => some none
  | some value => if isNothing value then some none else (read value).map some

/-- A list of values. -/
def list?
    [DataFormat ν]
    (read : ν → Option α)
    (value : ν) :
    Option (List α) := do
  (← items? value).mapM read

/-- One of some values, each with its word. -/
def oneOf?
    [DataFormat ν]
    (values : List α)
    (word : α → String)
    (value : ν) :
    Option α := do
  let given ← word? value
  values.find? fun candidate => word candidate == given

end DataFormat
end DocLint
