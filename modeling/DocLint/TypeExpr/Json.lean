import DocLint.Json.Record
import DocLint.TypeExpr.Basic

/-!
# Type expressions as data

A type expression is written as an object whose member `shape` says which other
members there are, or as an array with the shape first and the other values in
order.  A shape is given by its word; inside of another type expression its
number is read as well.
-/

namespace DocLint
namespace TypeExpr

mutual

/-- A type expression as a JSON value. -/
def toJson : TypeExpr → Json
  | simple name =>
    .object [("shape", .string Shape.simple.word), ("name", .string name)]
  | generic name arguments =>
    .object
      [ ("shape", .string Shape.generic.word), ("name", .string name),
        ("args", .array (listToJson arguments))]
  | tuple name elements =>
    .object
      [ ("shape", .string Shape.tuple.word), ("name", .string name),
        ("elements", .array (listToJson elements))]
  | mapping name keys values =>
    .object
      [ ("shape", .string Shape.mapping.word), ("name", .string name),
        ("keys", .array (listToJson keys)),
        ("values", .array (listToJson values))]

/-- Type expressions as JSON values. -/
def listToJson : List TypeExpr → List Json
  | [] => []
  | type :: rest => toJson type :: listToJson rest

end

/-- The names of the members behind the shape. -/
def memberNames : Shape → List String
  | .simple => ["name"]
  | .generic => ["name", "args"]
  | .tuple => ["name", "elements"]
  | .mapping => ["name", "keys", "values"]

/-- The shapes in the order of their numbers. -/
def numberedShapes : List Shape :=
  [.simple, .generic, .tuple, .mapping]

/-- The shape that a value stands for.  Numbers stand for shapes only in
`nested` expressions. -/
def shapeOf? (nested : Bool) : Json → Option Shape
  | .string word => numberedShapes.find? fun shape => shape.word == word
  | .natural number => if nested then numberedShapes[number]? else none
  | _ => none

/-- A JSON value together with the type expressions it holds as a list, if it is
such a list. -/
abbrev Entry := Json × Option (List TypeExpr)

/-- A type expression of a shape, from the values behind the shape. -/
def ofEntries? (shape : Shape) (entries : List Entry) : Option TypeExpr :=
  match shape, entries with
  | .simple, [(.string name, _)] => some (simple name)
  | .generic, [(.string name, _), (_, some arguments)] =>
    some (generic name arguments)
  | .tuple, [(.string name, _), (_, some elements)] =>
    some (tuple name elements)
  | .mapping, [(.string name, _), (_, some keys), (_, some values)] =>
    some (mapping name keys values)
  | _, _ => none

/-- A type expression from the members of an object. -/
def ofMembers?
    (nested : Bool)
    (members : List (String × Entry)) :
    Option TypeExpr := do
  let shape ← shapeOf? nested (← members.lookup "shape").1
  let entries ← (memberNames shape).mapM fun name => members.lookup name
  ofEntries? shape entries

/-- A type expression from the items of an array. -/
def ofItems? (nested : Bool) : List Entry → Option TypeExpr
  | (shape, _) :: entries => do ofEntries? (← shapeOf? nested shape) entries
  | [] => none

mutual

/-- Read a type expression, nested in another one or not. -/
def ofJson? (nested : Bool) : Json → Option TypeExpr
  | .object members => ofMembers? nested (memberEntries members)
  | .array items => ofItems? nested (itemEntries items)
  | _ => none

/-- Read a list of type expressions. -/
def listOfJson? (nested : Bool) : Json → Option (List TypeExpr)
  | .array items => listOfItems? nested items
  | _ => none

/-- Read each item as a type expression. -/
def listOfItems? (nested : Bool) : List Json → Option (List TypeExpr)
  | [] => some []
  | item :: rest => do
    return (← ofJson? nested item) :: (← listOfItems? nested rest)

/-- The members of an object with the lists they hold. -/
def memberEntries : List (String × Json) → List (String × Entry)
  | [] => []
  | (name, value) :: rest =>
    (name, value, listOfJson? true value) :: memberEntries rest

/-- The items of an array with the lists they hold. -/
def itemEntries : List Json → List Entry
  | [] => []
  | item :: rest => (item, listOfJson? true item) :: itemEntries rest

end

end TypeExpr
end DocLint
