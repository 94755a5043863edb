import DocLint.Checker
import DocLint.Record

/-!
# Manifests

A manifest lists the declarations of one source file with their parameters and
comments.
-/

namespace DocLint

open DataFormat

/-- The declarations of one source file. -/
structure Manifest where
  file : String
  declarations : List Declaration
  deriving DecidableEq, Repr

/-- Read a comment line. -/
def CommentLine.read?
    {ν : Type}
    [DataFormat ν]
    (value : ν) :
    Option CommentLine := do
  match ← fields? ["line", "column", "text", "leading"] value with
  | [line, column, text, leading] =>
    return {
      line := ← required natural? line
      column := ← withDefault 0 natural? column
      text := ← required text? text
      leading := ← withDefault true flag? leading }
  | _ => none

/-- Read a parameter.  Its default value is given by its source text. -/
def Parameter.read?
    {ν : Type}
    [DataFormat ν]
    (value : ν) :
    Option Parameter := do
  match ← fields? ["name", "kind", "default"] value with
  | [name, kind, default] =>
    return {
      name := ← optional text? name
      kind := ← required (oneOf? ParameterKind.all ParameterKind.word) kind
      default := (← optional text? default).map Literal.classify }
  | _ => none

/-- Read a declaration. -/
def Declaration.read?
    {ν : Type}
    [DataFormat ν]
    (value : ν) :
    Option Declaration := do
  match ← fields?
      ["kind", "name", "line", "column", "parameters", "comments"] value with
  | [kind, name, line, column, parameters, comments] =>
    return {
      kind := ← required (oneOf? DeclarationKind.all DeclarationKind.word) kind
      name := ← withDefault "" text? name
      line := ← withDefault 0 natural? line
      column := ← withDefault 0 natural? column
      parameters := ← withDefault [] (list? Parameter.read?) parameters
      comments := ← withDefault [] (list? CommentLine.read?) comments }
  | _ => none

namespace Manifest

/-- Read a manifest. -/
def read? {ν : Type} [DataFormat ν] (value : ν) : Option Manifest := do
  match ← fields? ["file", "declarations"] value with
  | [file, declarations] =>
    return {
      file := ← required text? file
      declarations := ← withDefault [] (list? Declaration.read?) declarations }
  | _ => none

/-- The outcome of checking a manifest. -/
def check (checker : Checker) (manifest : Manifest) : CheckResult where
  files := [⟨manifest.file, (checker.checkAll manifest.declarations).flatten⟩]
  scanned := manifest.declarations.length
  skipped := []

end Manifest
end DocLint
