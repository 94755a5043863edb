import DocLint.Command.BuiltIn
import DocLint.Command.Run

/-!
# The program

The program takes a look at the files that its command asks about, lets the
command work on what it saw, writes to the terminal, and makes the changes.
-/

namespace DocLint
namespace Program

/-- How the program is used. -/
def usage : String :=
  "Usage: yardcheck [-v] <COMMAND>\n\n" ++
    "Commands:\n" ++
    "  lint <PATH> [-c CONFIG] [-f pretty|json] [-s short|long]\n" ++
    "      Check declaration manifests\n" ++
    "  type <EXPR> [-s short|long] [-f pretty|json]\n" ++
    "      Show the form of a type\n" ++
    "  init [-o OUTPUT]\n" ++
    "      Write a configuration\n" ++
    "  help\n" ++
    "      Print this message\n"

/-- The text of the file at a path, if it can be read. -/
def readText? (path : String) : IO (Option String) := do
  try
    return some (← IO.FS.readFile path)
  catch _ =>
    return none

/-- Whether something is at a path, and whether that is a directory. -/
def isDirectory? (path : String) : IO (Option Bool) := do
  try
    let found ← IO.FS.realPath path
    if ← found.pathExists then
      return some (← found.isDir)
    else
      return none
  catch _ =>
    return none

/-- Everything at or below a path.  Only the texts of manifests are read. -/
partial def load (name path : String) : IO FileTree := do
  if (← isDirectory? path) == some true then
    let entries ← (← IO.FS.realPath path).readDir
    let trees ← entries.toList.mapM fun entry => do
      return (entry.fileName,
        ← load entry.fileName (Path.join path entry.fileName))
    return .directory trees
  else if Manifest.isManifestName name then
    return .file ((← readText? path).getD "")
  else
    return .file ""

/-- Look at a path and at everything on the way to it. -/
def look (workspace : Workspace) (path : String) : IO Workspace := do
  let mut workspace := workspace
  let mut place := workspace.start path
  for segment in Path.segments path do
    if segment == ".." then
      place := place.dropLast
    else if !Path.isIdle segment then
      place := place ++ [segment]
      if (workspace.tree.find? place).isNone then
        match ← isDirectory? (Path.absolute place) with
        | none => return workspace
        | some true => workspace := workspace.apply (.directory place)
        | some false =>
          match ← readText? (Path.absolute place) with
          | none => return workspace
          | some text => workspace := workspace.apply (.file place text)
  return workspace

/-- Look at everything below a directory. -/
def lookBelow (workspace : Workspace) (path : String) : IO Workspace := do
  match workspace.place path with
  | .error _ => return workspace
  | .ok place =>
    if workspace.isDirectory path then
      let tree ← load "" (Path.absolute place)
      return { workspace with tree := workspace.tree.put place tree }
    else return workspace

/-- Look at what a command asks about. -/
def lookFor (workspace : Workspace) : Command → IO Workspace
  | .type _ => return workspace
  | .init options => look workspace options.output
  | .lint options => do
    let workspace ← lookBelow (← look workspace options.path) options.path
    let directory := LintOptions.directoryOf workspace options.path
    let configs :=
      [".", directory].flatMap fun directory =>
        LintOptions.configNames.map (Path.join directory)
    let texts ← (options.config.toList ++ configs).filterMapM fun path => do
      return (← readText? path).map fun text => (path, text)
    let mut workspace := workspace
    for (path, text) in texts do
      workspace ← look workspace path
      if let .ok place := workspace.place path then
        workspace := workspace.apply (.file place text)
    return workspace

/-- The workspace with nothing but the working directory in it. -/
def workingDirectory : IO Workspace := do
  let path := (← IO.currentDir).toString
  let here := (Path.segments path).filter fun segment => !Path.isIdle segment
  return { tree := (FileTree.directory []).put here (.directory []), here }

/-- Make a change. -/
def perform : Change → IO Unit
  | .directory place => IO.FS.createDirAll (Path.absolute place)
  | .file place text => IO.FS.writeFile (Path.absolute place) text

/-- Whether the terminal shows colors. -/
def showsColor : IO Bool := do
  let off ← IO.getEnv "NO_COLOR"
  return off.isNone && (← (← IO.getStdout).isTty)

/-- Run the program and give its exit code. -/
def run (arguments : List String) : IO Nat := do
  match Command.parse arguments with
  | .error refusal =>
    match refusal with
    | .misuse => IO.eprint usage
    | .help => IO.print usage
    | .version => IO.print Refusal.versionLine
    return refusal.status.code
  | .ok command =>
    let workspace ← lookFor (← workingDirectory) command
    let outcome := command.run .builtIn (← showsColor) workspace
    outcome.changes.forM perform
    IO.print outcome.output
    IO.eprint outcome.errors
    return outcome.status.code

end Program
end DocLint

/-- The program. -/
def main (arguments : List String) : IO UInt32 := do
  return (← DocLint.Program.run arguments).toUInt32
