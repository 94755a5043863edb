import DocLint.TypeExpr.Basic

/-!
# Reserved names on the wrong brackets

`Hash` belongs to braces, `Array` to angle brackets and parentheses.  A reserved
name on other brackets is a mismatch; this module lists the mismatches of a type
expression and corrects them.  Names that are not reserved are never a mismatch.
-/

namespace DocLint

/-- A reserved name on the wrong brackets. -/
inductive Mismatch
  /-- `Array` on braces. -/
  | arrayWithBraces
  /-- `Hash` on parentheses around a pair. -/
  | hashWithPairParens
  /-- `Hash` on parentheses around anything but a pair. -/
  | hashWithParens
  /-- `Hash` on angle brackets around a pair. -/
  | hashWithPairAngles
  /-- `Hash` on angle brackets around anything but a pair. -/
  | hashWithAngles
  deriving DecidableEq, Repr

/-- The word for a mismatch in data. -/
def Mismatch.word : Mismatch → String
  | .arrayWithBraces => "array_with_braces"
  | .hashWithPairParens => "hash_with_pair_parens"
  | .hashWithParens => "hash_with_parens"
  | .hashWithPairAngles => "hash_with_pair_angles"
  | .hashWithAngles => "hash_with_angles"

/-- What is told about a mismatch. -/
def Mismatch.message : Mismatch → String
  | .arrayWithBraces =>
    "`\x7bKeyType => ValueType\x7d` is the Hash collection type syntax."
  | .hashWithPairParens =>
    "`Hash(Key, Value)` is likely a miswritten `Hash\x7bKey => Value\x7d`."
  | .hashWithParens => "`(Type)` is the fixed collection type syntax."
  | .hashWithPairAngles =>
    "`Hash<Key, Value>` is ambiguous syntax; prefer `Hash\x7bKey => Value\x7d`."
  | .hashWithAngles => "`<Type>` is the collection type syntax."

namespace TypeExpr

/-- The mismatch at the root of a type expression. -/
def mismatch? : TypeExpr → Option Mismatch
  | simple _ => none
  | generic name arguments =>
    if name = hashName then
      some (if arguments.length = 2 then .hashWithPairAngles
        else .hashWithAngles)
    else none
  | tuple name elements =>
    if name = hashName then
      some (if elements.length = 2 then .hashWithPairParens
        else .hashWithParens)
    else none
  | mapping name _ _ => if name = arrayName then some .arrayWithBraces else none

/-- The root corrected: a pair becomes the key and the value of a hash, anything
else keeps its brackets and takes the name that belongs to them.  A root without
a mismatch is kept. -/
def correctRoot (type : TypeExpr) : TypeExpr :=
  match type.mismatch?, type with
  | some _, generic _ [key, value] => mapping hashName [key] [value]
  | some _, tuple _ [key, value] => mapping hashName [key] [value]
  | some _, generic _ arguments => generic arrayName arguments
  | some _, tuple _ elements => tuple arrayName elements
  | some _, mapping _ keys values => mapping hashName keys values
  | _, _ => type

/-- The mismatch at the root of a type expression with the expression as
written. -/
def ownMismatch (type : TypeExpr) : List (Mismatch × TypeExpr) :=
  (type.mismatch?.map fun mismatch => (mismatch, type)).toList

mutual

/-- Every part with a mismatch at its root, as written, outer parts before inner
ones. -/
def mismatches : TypeExpr → List (Mismatch × TypeExpr)
  | simple name => ownMismatch (simple name)
  | generic name arguments =>
    ownMismatch (generic name arguments) ++ mismatchesOfList arguments
  | tuple name elements =>
    ownMismatch (tuple name elements) ++ mismatchesOfList elements
  | mapping name keys values =>
    ownMismatch (mapping name keys values) ++
      (mismatchesOfList keys ++ mismatchesOfList values)

/-- The mismatches of a list, from left to right. -/
def mismatchesOfList : List TypeExpr → List (Mismatch × TypeExpr)
  | [] => []
  | type :: rest => mismatches type ++ mismatchesOfList rest

end

/-- The root corrected, or nothing when it has no mismatch. -/
def correctRoot? (type : TypeExpr) : Option TypeExpr :=
  type.mismatch?.map fun _ => type.correctRoot

mutual

/-- Every mismatch corrected, inner parts first, or nothing when there is none
to correct. -/
def correct? : TypeExpr → Option TypeExpr
  | simple _ => none
  | generic name arguments =>
    match correctList? arguments with
    | some corrected => some (generic name corrected).correctRoot
    | none => (generic name arguments).correctRoot?
  | tuple name elements =>
    match correctList? elements with
    | some corrected => some (tuple name corrected).correctRoot
    | none => (tuple name elements).correctRoot?
  | mapping name keys values =>
    match correctList? keys, correctList? values with
    | none, none => (mapping name keys values).correctRoot?
    | newKeys, newValues =>
      some (mapping name (newKeys.getD keys)
        (newValues.getD values)).correctRoot

/-- A list with every mismatch corrected, or nothing when there is none to
correct. -/
def correctList? : List TypeExpr → Option (List TypeExpr)
  | [] => none
  | type :: rest =>
    match correct? type, correctList? rest with
    | none, none => none
    | newType, newRest => some (newType.getD type :: newRest.getD rest)

end

/-- A type expression with every mismatch corrected. -/
def correct (type : TypeExpr) : TypeExpr :=
  type.correct?.getD type

end TypeExpr
end DocLint
