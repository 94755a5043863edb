import DocLint.Comment
import DocLint.Literal

/-!
# Declarations

A declaration is what a comment documents: a method with its parameters, a
class, a module or a constant.
-/

namespace DocLint

/-- What kind of declaration a comment documents. -/
inductive DeclarationKind
  | method
  | classBody
  | moduleBody
  | constant
  deriving DecidableEq, Repr

namespace DeclarationKind

/-- The word for a kind. -/
def word : DeclarationKind → String
  | .method => "method"
  | .classBody => "class"
  | .moduleBody => "module"
  | .constant => "constant"

/-- All kinds. -/
def all : List DeclarationKind := [.method, .classBody, .moduleBody, .constant]

end DeclarationKind

/-- How a parameter is declared. -/
inductive ParameterKind
  | required
  | optional
  | rest
  | keyword
  | keywordRest
  | block
  | forward
  deriving DecidableEq, Repr

namespace ParameterKind

/-- The word for a kind. -/
def word : ParameterKind → String
  | .required => "required"
  | .optional => "optional"
  | .rest => "rest"
  | .keyword => "keyword"
  | .keywordRest => "keyword_rest"
  | .block => "block"
  | .forward => "forward"

/-- All kinds. -/
def all : List ParameterKind :=
  [.required, .optional, .rest, .keyword, .keywordRest, .block, .forward]

end ParameterKind

/-- A parameter of a method.  A parameter that is only passed on has no name. -/
structure Parameter where
  name : Option String
  kind : ParameterKind
  default : Option Literal
  deriving DecidableEq, Repr

namespace Parameter

/-- Whether the parameter has to be documented: all with a name but blocks. -/
def needsDocumentation (parameter : Parameter) : Bool :=
  parameter.name.isSome && parameter.kind != .block

/-- The types to document the parameter with: by its default value, or else by
its kind. -/
def documentedType (parameter : Parameter) : String :=
  match parameter.default, parameter.kind with
  | some literal, _ => literal.documentedType
  | none, .rest => Literal.array.documentedType
  | none, .keywordRest => Literal.hash.documentedType
  | none, _ => Literal.other.documentedType

/-- The parameter with the default value that a source text gives. -/
def withDefault (parameter : Parameter) (source : String) : Parameter :=
  { parameter with default := some (Literal.classify source) }

end Parameter

/-- A documented declaration. -/
structure Declaration where
  kind : DeclarationKind
  name : String
  line : Nat
  column : Nat
  parameters : List Parameter
  comments : List CommentLine
  deriving DecidableEq, Repr

namespace Declaration

/-- The declaration that follows a comment, on the next line and in the same
column. -/
def below
    (comments : List CommentLine)
    (kind : DeclarationKind)
    (name : String)
    (parameters : List Parameter) :
    Declaration :=
  match comments.getLast? with
  | some last => ⟨kind, name, last.line + 1, last.column, parameters, comments⟩
  | none => ⟨kind, name, 1, 0, parameters, comments⟩

/-- The names of the parameters that have one. -/
def parameterNames (declaration : Declaration) : List String :=
  declaration.parameters.filterMap Parameter.name

end Declaration
end DocLint
