import DocLint.TypeExpr.Basic
import DocLint.Text.Words

/-!
# Styles and written forms

A style says whether the reserved name of a collection is written out or left
out.  Each type expression has one written form in each style; names that are
not reserved for their brackets are the same in both.
-/

namespace DocLint

/-- Whether reserved names are left out or written out. -/
inductive Style
  | short
  | long
  deriving DecidableEq, Repr

namespace Style

/-- The other style. -/
def opposite : Style → Style
  | short => long
  | long => short

/-- The word for a style. -/
def word : Style → String
  | short => "short"
  | long => "long"

/-- Both styles. -/
def all : List Style := [short, long]

/-- Read the word for a style, in any case. -/
def ofWord? (text : String) : Option Style :=
  all.find? fun style => style.word == text.toLower

end Style

namespace TypeExpr

/-- The name written in front of the brackets in a style. -/
def styledName (style : Style) (type : TypeExpr) : String :=
  match style with
  | .long => type.effectiveName
  | .short =>
    if type.shape.reservedName = some type.effectiveName then "" else type.name

mutual

/-- The characters of the written form in a style. -/
def chars (style : Style) : TypeExpr → List Char
  | simple name => name.toList
  | generic name arguments =>
    (styledName style (generic name arguments)).toList ++
      '<' :: charsOfList style arguments ++ ['>']
  | tuple name elements =>
    (styledName style (tuple name elements)).toList ++
      '(' :: charsOfList style elements ++ [')']
  | mapping name keys values =>
    (styledName style (mapping name keys values)).toList ++
      '\x7b' :: charsOfList style keys ++ " => ".toList ++
        charsOfList style values ++ ['\x7d']

/-- The characters of a list of type expressions, divided by a comma and a
space. -/
def charsOfList (style : Style) : List TypeExpr → List Char
  | [] => []
  | type :: rest => chars style type ++ charsOfRest style rest

/-- As `charsOfList`, with the comma in front of every type expression. -/
def charsOfRest (style : Style) : List TypeExpr → List Char
  | [] => []
  | type :: rest => ',' :: ' ' :: chars style type ++ charsOfRest style rest

end

/-- The written form of a type expression. -/
def render (style : Style) (type : TypeExpr) : String :=
  String.ofList (chars style type)

/-- The written form of alternatives. -/
def renderList (style : Style) (types : List TypeExpr) : String :=
  String.ofList (charsOfList style types)

end TypeExpr
end DocLint
