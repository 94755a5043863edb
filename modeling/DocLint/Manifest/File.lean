import DocLint.Files.Path
import DocLint.Manifest

/-!
# Manifest files

A manifest is kept in a file of JSON or YAML.  How a text of either format is
read is up to a reader.  A run over several files checks those that hold a
manifest and notes the others as skipped.
-/

namespace DocLint

/-- Why a file does not give a manifest. -/
inductive LoadError
  | unreadable (path cause : String)
  | invalidYaml (path cause : String)
  | invalidJson (path cause : String)
  deriving DecidableEq, Repr

namespace LoadError

/-- The path of the file. -/
def path : LoadError → String
  | .unreadable path _ => path
  | .invalidYaml path _ => path
  | .invalidJson path _ => path

/-- What is told about an error. -/
def message : LoadError → String
  | .unreadable path cause => "cannot read " ++ path ++ ": " ++ cause
  | .invalidYaml path cause => "invalid YAML in " ++ path ++ ": " ++ cause
  | .invalidJson path cause => "invalid JSON in " ++ path ++ ": " ++ cause

end LoadError

namespace Manifest

/-- What reads the texts of manifests: each reader gives the manifest that a
text of its format holds, or tells what is wrong with the text. -/
structure Readers where
  yaml : String → Except String Manifest
  json : String → Except String Manifest

/-- The endings of the names of manifest files. -/
def suffixes : List String :=
  [".decl.yaml", ".decl.yml", ".decl.json"]

/-- Whether a name is one of a manifest file. -/
def isManifestName (name : String) : Bool :=
  suffixes.any fun suffix => suffix.toList.isSuffixOf name.toList

/-- Whether a path ends with the name of a manifest file. -/
def isManifestPath (path : String) : Bool :=
  (Path.fileName? path).any isManifestName

/-- Whether the file at a path is read as JSON and not as YAML. -/
def isJsonPath (path : String) : Bool :=
  (Path.fileName? path).bind Path.extension? == some "json"

/-- The manifest in a file, given its path and its text, or what is told where
it cannot be read. -/
def load
    (readers : Readers)
    (path : String) :
    Except String String → Except LoadError Manifest
  | .error cause => .error (.unreadable path cause)
  | .ok text =>
    if isJsonPath path then (readers.json text).mapError (.invalidJson path)
    else (readers.yaml text).mapError (.invalidYaml path)

section Runs

variable (readers : Readers)
variable (checker : Checker)
variable (contents : String → Except String String)

/-- The outcome of checking one file. -/
def checkFile (path : String) : CheckResult :=
  match load readers path (contents path) with
  | .ok manifest => manifest.check checker
  | .error _ => { CheckResult.empty with skipped := [path] }

/-- The outcome of checking files one after another. -/
def checkFiles (paths : List String) : CheckResult :=
  paths.foldl
    (fun result path => result.merge (checkFile readers checker contents path))
    .empty

end Runs

end Manifest
end DocLint
