import DocLint.Command.Init
import DocLint.Command.Lint
import DocLint.Report.TypeReport

/-!
# Commands at work

Each command turns its options and a workspace into an outcome.
-/

namespace DocLint

/-- Report on a text of types.  The report fails when something is wrong. -/
def TypeOptions.run (options : TypeOptions) (color : Bool) : Outcome :=
  match OutputFormat.ofWord? options.format with
  | none => .fail (unknownFormatMessage options.format)
  | some format =>
    let report := TypeReport.of options.text options.style
    { status := if report.isClean then .passed else .failed
      output :=
        match format with
        | .json => report.toJson.pretty ++ "\n"
        | .pretty => report.prettyText color }

namespace Refusal

/-- How a command line without a command ends. -/
def status : Refusal → Status
  | .misuse => .error
  | .help => .passed
  | .version => .passed

/-- The line that tells the version. -/
def versionLine : String :=
  toolName ++ " " ++ toolVersion ++ "\n"

end Refusal

/-- Run a command on a workspace. -/
def Command.run
    (libraries : Libraries)
    (color : Bool)
    (workspace : Workspace) :
    Command → Outcome
  | .lint options => options.run libraries color workspace
  | .type options => options.run color
  | .init options => options.run workspace

end DocLint
