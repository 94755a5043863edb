/-!
# The layout of generated tags

A tag that is suggested for a parameter has its types in front of the name or
behind it.
-/

namespace DocLint

/-- Where the types stand in a generated tag. -/
inductive Prototype
  | typeFirst
  | nameFirst
  deriving DecidableEq, Repr

namespace Prototype

/-- The word for a layout. -/
def word : Prototype → String
  | .typeFirst => "type_first"
  | .nameFirst => "name_first"

/-- Both layouts. -/
def all : List Prototype := [.typeFirst, .nameFirst]

/-- Read the word for a layout, in any case and with hyphens or underscores. -/
def ofWord? (text : String) : Option Prototype :=
  all.find? fun prototype =>
    prototype.word == (text.toLower.map fun c => if c = '-' then '_' else c)

/-- The tag that documents a parameter. -/
def format (prototype : Prototype) (name types : String) : String :=
  match prototype with
  | .typeFirst => "@param [" ++ types ++ "] " ++ name
  | .nameFirst => "@param " ++ name ++ " [" ++ types ++ "]"

end Prototype
end DocLint
