/-!
# Type expressions

A type expression is a name, or a collection: a name with a bracketed list of
type expressions.  The brackets decide what the collection holds.  Two names are
reserved, `Array` and `Hash`; each belongs to some of the brackets and may be
left out in front of them.
-/

namespace DocLint

/-- The reserved name of collections in angle brackets and parentheses. -/
def arrayName : String := "Array"

/-- The reserved name of collections in braces. -/
def hashName : String := "Hash"

/-- What kind of brackets a type expression has, whatever its name. -/
inductive Shape
  | simple
  | generic
  | tuple
  | mapping
  deriving DecidableEq, Repr

/-- The name that may be left out in front of the brackets. -/
def Shape.reservedName : Shape → Option String
  | .simple => none
  | .generic => some arrayName
  | .tuple => some arrayName
  | .mapping => some hashName

/-- The word for a shape in data. -/
def Shape.word : Shape → String
  | .simple => "simple"
  | .generic => "generic"
  | .tuple => "tuple"
  | .mapping => "mapping"

/-- A type expression.  A collection whose name is left out has the empty
name. -/
inductive TypeExpr
  | simple (name : String)
  | generic (name : String) (arguments : List TypeExpr)
  | tuple (name : String) (elements : List TypeExpr)
  | mapping (name : String) (keys : List TypeExpr) (values : List TypeExpr)
  deriving Repr

namespace TypeExpr

/-- The shape of a type expression. -/
def shape : TypeExpr → Shape
  | simple _ => .simple
  | generic _ _ => .generic
  | tuple _ _ => .tuple
  | mapping _ _ _ => .mapping

/-- The name as written; empty when it is left out. -/
def name : TypeExpr → String
  | simple name => name
  | generic name _ => name
  | tuple name _ => name
  | mapping name _ _ => name

/-- The name with the reserved name put in where it is left out. -/
def effectiveName (type : TypeExpr) : String :=
  match type.shape.reservedName with
  | some reserved => if type.name = "" then reserved else type.name
  | none => type.name

/-- The direct parts in source order: the keys of a mapping come before its
values. -/
def children : TypeExpr → List TypeExpr
  | simple _ => []
  | generic _ arguments => arguments
  | tuple _ elements => elements
  | mapping _ keys values => keys ++ values

mutual

/-- Number of levels of a type expression, a name alone being one. -/
def depth : TypeExpr → Nat
  | simple _ => 1
  | generic _ arguments => 1 + depthOfList arguments
  | tuple _ elements => 1 + depthOfList elements
  | mapping _ keys values => 1 + max (depthOfList keys) (depthOfList values)

/-- The largest depth in a list. -/
def depthOfList : List TypeExpr → Nat
  | [] => 0
  | type :: rest => max (depth type) (depthOfList rest)

end

end TypeExpr
end DocLint
