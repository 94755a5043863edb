import DocLint.Command.Arguments
import DocLint.Command.Outcome
import DocLint.Json.Printer
import DocLint.Manifest.Search
import DocLint.Report.Pretty

/-!
# The check of manifests

The check reads a configuration, finds the manifests, and reports what is wrong
in them.  It fails when some finding is an error; manifests that cannot be read
do not make it fail.

What the formats of files and the patterns of paths are is left to libraries.
The check works with any of them.
-/

namespace DocLint

/-- The libraries that the check works with. -/
structure Libraries where
  /-- Read a configuration from YAML, or tell what is wrong with the text. -/
  config : String → Except String Config
  manifests : Manifest.Readers
  patterns : PatternCompiler

/-- Why manifests cannot be checked. -/
inductive LintError
  | unknownFormat (format : String)
  | unreadableConfig (path cause : String)
  | invalidConfig (error : ConfigError)
  | inaccessible (path : String) (cause : FileError)
  deriving DecidableEq, Repr

/-- What is told about a format that there is not. -/
def unknownFormatMessage (format : String) : String :=
  "invalid format " ++ Text.quoted format ++ ", must be 'pretty' or 'json'"

/-- What is told about an error. -/
def LintError.message : LintError → String
  | .unknownFormat format => unknownFormatMessage format
  | .unreadableConfig path cause => "error parsing " ++ path ++ ": " ++ cause
  | .invalidConfig error => "invalid configuration: " ++ error.message
  | .inaccessible path cause =>
    "cannot access path " ++ Text.quoted path ++ ": " ++ cause.message

/-- What is to be checked, and how. -/
structure LintPlan where
  format : OutputFormat
  config : Config
  /-- The path of the configuration, if it is not the default one. -/
  configPath : Option String
  manifests : List String
  deriving DecidableEq, Repr

namespace LintOptions

/-- The names of the files in which a configuration is looked for. -/
def configNames : List String :=
  ["yardcheck.yaml", ".yardcheck.yaml"]

/-- The configuration file in a directory. -/
def configIn? (workspace : Workspace) (directory : String) : Option String :=
  (configNames.map (Path.join directory)).find? workspace.isFile

/-- The directory that belongs to a path. -/
def directoryOf (workspace : Workspace) (path : String) : String :=
  if workspace.isDirectory path then path else (Path.parent? path).getD "."

/-- The path of the configuration: the one that is given, else one in the
working directory, else one in the directory of what is checked. -/
def configPath?
    (options : LintOptions)
    (workspace : Workspace) :
    Option String :=
  options.config <|>
    (configIn? workspace "." <|>
      configIn? workspace (directoryOf workspace options.path))

/-- The configuration at a path, or the default one. -/
def loadConfig
    (libraries : Libraries)
    (workspace : Workspace) :
    Option String → Except LintError Config
  | none => .ok {}
  | some path =>
    ((workspace.text path).bind libraries.config).mapError
      (.unreadableConfig path)

/-- What is to be checked.  What is wrong with the format comes first, then the
configuration, then the path. -/
def plan
    (options : LintOptions)
    (libraries : Libraries)
    (workspace : Workspace) :
    Except LintError LintPlan := do
  let some format := OutputFormat.ofWord? options.format
    | throw (.unknownFormat options.format)
  let configPath := options.configPath? workspace
  let config ← loadConfig libraries workspace configPath
  if let some error := config.error? libraries.patterns then
    throw (.invalidConfig error)
  let config := { config with style := options.style.getD config.style }
  let place ←
    (workspace.place options.path).mapError (.inaccessible options.path)
  let excluded ←
    (config.exclusions libraries.patterns).mapError .invalidConfig
  let some manifests := Manifest.search workspace excluded (Path.absolute place)
    | throw (.inaccessible options.path .notFound)
  return { format, config, configPath, manifests }

end LintOptions

namespace LintPlan

section Results

variable (plan : LintPlan)
variable (libraries : Libraries)
variable (workspace : Workspace)

/-- The outcome of the checks. -/
def result : CheckResult :=
  Manifest.checkFiles libraries.manifests { config := plan.config }
    workspace.text plan.manifests

/-- What the report is called after. -/
def configText : String :=
  plan.configPath.getD "(defaults)"

/-- The report on a path. -/
def report (path : String) : Report :=
  Report.of path plan.configText plan.config.style
    (plan.result libraries workspace)

/-- The text of the report on a path. -/
def reportText (color : Bool) (path : String) : String :=
  match plan.format with
  | .json => (plan.report libraries workspace path).toJson.pretty ++ "\n"
  | .pretty =>
    Pretty.resultText color path plan.configText plan.config.style
      (plan.result libraries workspace)

end Results

end LintPlan

namespace LintOptions

/-- Check manifests. -/
def run
    (options : LintOptions)
    (libraries : Libraries)
    (color : Bool)
    (workspace : Workspace) :
    Outcome :=
  match options.plan libraries workspace with
  | .error error => .fail error.message
  | .ok plan =>
    if plan.manifests.isEmpty then
      { status := .passed, errors := "Warning: no manifests to check\n" }
    else
      { status :=
          if (plan.result libraries workspace).hasErrors then .failed
          else .passed
        output := plan.reportText libraries workspace color options.path }

end LintOptions
end DocLint
