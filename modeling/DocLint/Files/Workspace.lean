import DocLint.Files.Path
import DocLint.Files.Tree

/-!
# Workspaces

A workspace is all the files there are together with the directory in which a
command works.  Paths lead to places in it, and changes put new directories and
files at places.
-/

namespace DocLint

/-- Why a path does not lead to what is wanted. -/
inductive FileError
  | notFound
  | exists
  | notDirectory
  | isDirectory
  deriving DecidableEq, Repr

/-- What is told about an error, with its number. -/
def FileError.message : FileError → String
  | .notFound => "No such file or directory (os error 2)"
  | .exists => "File exists (os error 17)"
  | .notDirectory => "Not a directory (os error 20)"
  | .isDirectory => "Is a directory (os error 21)"

/-- A directory or file that a command makes, at its place. -/
inductive Change
  | directory (place : List String)
  | file (place : List String) (text : String)
  deriving DecidableEq, Repr

/-- All files, and the place of the working directory. -/
structure Workspace where
  tree : FileTree
  here : List String
  deriving Repr

namespace Workspace

/-- The workspace after a change. -/
def apply (workspace : Workspace) : Change → Workspace
  | .directory place =>
    { workspace with tree := workspace.tree.put place (.directory []) }
  | .file place text =>
    { workspace with tree := workspace.tree.put place (.file text) }

/-- Follow segments from a place.  Only from a directory do they lead on. -/
def follow
    (tree : FileTree)
    (place : List String) :
    List String → Except FileError (List String)
  | [] => .ok place
  | segment :: rest =>
    match tree.find? place with
    | none => .error .notFound
    | some (.file _) => .error .notDirectory
    | some (.directory entries) =>
      if Path.isIdle segment then follow tree place rest
      else if segment = ".." then follow tree place.dropLast rest
      else if (entries.lookup segment).isSome then
        follow tree (place ++ [segment]) rest
      else .error .notFound

/-- The place where following a path starts. -/
def start (workspace : Workspace) (path : String) : List String :=
  if Path.isAbsolute path then [] else workspace.here

/-- The place a path leads to.  The empty path leads nowhere. -/
def place
    (workspace : Workspace)
    (path : String) :
    Except FileError (List String) :=
  if path.isEmpty then .error .notFound
  else follow workspace.tree (workspace.start path) (Path.segments path)

/-- The tree a path leads to. -/
def tree? (workspace : Workspace) (path : String) : Option FileTree :=
  (workspace.place path).toOption.bind workspace.tree.find?

/-- Whether a path leads to a file. -/
def isFile (workspace : Workspace) (path : String) : Bool :=
  (workspace.tree? path).any fun tree => !tree.isDirectory

/-- Whether a path leads to a directory. -/
def isDirectory (workspace : Workspace) (path : String) : Bool :=
  (workspace.tree? path).any FileTree.isDirectory

/-- The text of the file a path leads to. -/
def read
    (workspace : Workspace)
    (path : String) :
    Except FileError String := do
  match workspace.tree.find? (← workspace.place path) with
  | some (.file text) => return text
  | some (.directory _) => throw .isDirectory
  | none => throw .notFound

/-- The text of the file a path leads to, or what is told where it leads to
none. -/
def text (workspace : Workspace) (path : String) : Except String String :=
  (workspace.read path).mapError FileError.message

/-- The directories to make so that segments can be followed from a place, up to
the first segment that names a file.  Such a file is in the way of the directory
that has to be made there, if there is one: where the segments end, and from the
first directory on that had to be made.  In front of that the segments only lead
through it, which a file does not allow. -/
def missingDirectories
    (tree : FileTree)
    (place : List String)
    (making : Bool) :
    List String → List (List String) × Except FileError Unit
  | [] => ([], .ok ())
  | segment :: rest =>
    if Path.isIdle segment then missingDirectories tree place making rest
    else if segment = ".." then
      missingDirectories tree place.dropLast making rest
    else
      let next := place ++ [segment]
      match tree.find? next with
      | some (.directory _) => missingDirectories tree next making rest
      | some (.file _) =>
        ([], .error (if making || rest.isEmpty then .exists else .notDirectory))
      | none =>
        let later :=
          missingDirectories (tree.put next (.directory [])) next true rest
        (next :: later.1, later.2)

/-- The changes that make every directory on a path, and whether that is
possible. -/
def makeDirectories
    (workspace : Workspace)
    (path : String) :
    List Change × Except FileError Unit :=
  let made :=
    missingDirectories workspace.tree (workspace.start path) false
      (Path.segments path)
  (made.1.map Change.directory, made.2)

/-- The place where a file is written.  The path has to end with a name in a
directory. -/
def placeToWrite
    (workspace : Workspace)
    (path : String) :
    Except FileError (List String) := do
  let segments := Path.segments path
  let named := (segments.reverse.dropWhile (· == "")).reverse
  let directory ←
    follow workspace.tree (workspace.start path) (named.dropLast ++ ["."])
  match named.getLast? with
  | none => .error .isDirectory
  | some name =>
    if named.length < segments.length || name == "." || name == ".." then
      .error .isDirectory
    else
      match workspace.tree.find? (directory ++ [name]) with
      | some (.directory _) => .error .isDirectory
      | _ => .ok (directory ++ [name])

end Workspace
end DocLint
