import DocLint.Files.Workspace

/-!
# Outcomes of commands

A command works on a workspace without touching it: its outcome says what is
written to the terminal and which changes are to be made.
-/

namespace DocLint

/-- How a command ended. -/
inductive Status
  | passed
  | failed
  | error
  deriving DecidableEq, Repr

/-- The number that stands for a status. -/
def Status.code : Status → Nat
  | .passed => 0
  | .failed => 1
  | .error => 2

/-- The formats of what is written. -/
inductive OutputFormat
  | pretty
  | json
  deriving DecidableEq, Repr

/-- Read the word for a format. -/
def OutputFormat.ofWord? : String → Option OutputFormat
  | "pretty" => some .pretty
  | "json" => some .json
  | _ => none

/-- What comes of a command. -/
structure Outcome where
  status : Status
  output : String := ""
  errors : String := ""
  changes : List Change := []
  deriving DecidableEq, Repr

/-- The workspace after the changes of an outcome. -/
def Workspace.after (workspace : Workspace) (outcome : Outcome) : Workspace :=
  outcome.changes.foldl Workspace.apply workspace

/-- The outcome of a command that cannot do its work. -/
def Outcome.fail (message : String) : Outcome :=
  { status := .error, errors := "Error: " ++ message ++ "\n" }

end DocLint
