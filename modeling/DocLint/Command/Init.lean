import DocLint.Command.Arguments
import DocLint.Command.Outcome

/-!
# The first configuration

A default configuration is written to a new file; directories on its path are
made.
-/

namespace DocLint

/-- The text of the default configuration. -/
def defaultConfigText : String :=
  "\n".intercalate
    [ "# yardcheck configuration",
      "",
      "version: \"1\"",
      "",
      "# Collection style: long (Array<T>, Hash\x7bK => V\x7d) or " ++
        "short (<T>, \x7bK => V\x7d)",
      "style: long",
      "",
      "# Layout of generated @param lines: type_first (@param [T] name) or " ++
        "name_first (@param name [T])",
      "prototype: type_first",
      "",
      "# Manifests to skip",
      "excluded_paths:",
      "  - \"vendor/**\"",
      "",
      "# Per-rule overrides: enabled (default true) and " ++
        "severity (error, warning, info)",
      "rules:",
      "  collection_style:",
      "    severity: info",
      "  collection_type:",
      "    severity: warning",
      "  tag_type_syntax:",
      "    severity: error",
      "  tag_type_position:",
      "    severity: warning",
      "  unknown_param_name:",
      "    severity: error",
      "  incomplete_tag:",
      "    severity: warning",
      "  undocumented_argument:",
      "    severity: warning",
      "  meaningless_tag:",
      "    severity: warning",
      ""]

namespace InitOptions

/-- What is told about a path where something is already. -/
def existsMessage (path : String) : String :=
  "file already exists: " ++ path ++
    "\nRemove it or use --output to specify a different path"

/-- What is told after the configuration was written. -/
def nextSteps (path : String) : String :=
  "Created " ++ path ++ "\n\nNext steps:\n  1. Edit " ++ path ++
    " to choose a style and rule severities\n" ++
    "  2. Run: yardcheck lint . --config " ++ path ++ "\n"

/-- The directory to make for a path, unless it is the working directory. -/
def directoryToMake? (path : String) : Option String :=
  (Path.parent? path).filter fun parent => parent != "" && parent != "."

/-- The changes that make the directory of a path, and whether that is
possible. -/
def makeDirectory
    (workspace : Workspace)
    (path : String) :
    List Change × Except FileError Unit :=
  match directoryToMake? path with
  | none => ([], .ok ())
  | some directory => workspace.makeDirectories directory

/-- Write a default configuration.  Directories made before something goes wrong
are kept. -/
def run (options : InitOptions) (workspace : Workspace) : Outcome :=
  let path := options.output
  if (workspace.tree? path).isSome then .fail (existsMessage path)
  else
    let (changes, made) := makeDirectory workspace path
    match made with
    | .error cause =>
      let message := "failed to create directory: " ++ cause.message
      { Outcome.fail message with changes }
    | .ok () =>
      match (changes.foldl Workspace.apply workspace).placeToWrite path with
      | .error cause =>
        let message := "failed to write configuration: " ++ cause.message
        { Outcome.fail message with changes }
      | .ok place =>
        { status := .passed
          output := nextSteps path
          changes := changes ++ [.file place defaultConfigText] }

end InitOptions
end DocLint
