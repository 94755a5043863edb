import DocLint.Report.Json
import DocLint.Report.Paint

/-!
# Reports for people

The text of a report for a terminal: what was checked, each finding with its
correction, the manifests that were skipped, and whether the check passed.
-/

namespace DocLint
namespace Pretty

/-- A text filled up with spaces to a width in characters. -/
def padRight (width : Nat) (text : String) : String :=
  text ++ String.ofList (List.replicate (width - text.length) ' ')

/-- The mark of a severity. -/
def severityMark (color : Bool) : Severity → String
  | .error => Paint.red.apply color "ERROR"
  | .warning => Paint.yellow.apply color "WARN "
  | .info => Paint.blue.apply color "INFO "

/-- The line of a correction.  Line breaks in front of an insertion are not
shown. -/
def correctionLine (color : Bool) (correction : Correction) : String :=
  let verb := if correction.span.isEmpty then "insert" else "replace with"
  let replacement :=
    String.ofList (correction.replacement.toList.dropWhile (· == '\n'))
  "            " ++ Paint.dimmed.apply color (verb ++ ":") ++ " " ++
    Paint.green.apply color replacement ++ "\n"

/-- The lines of a finding. -/
def findingLines (color : Bool) (file : String) (finding : Finding) : String :=
  "    " ++ severityMark color finding.severity ++ "    " ++
    Paint.dimmed.apply color (padRight 24 finding.rule.name) ++
    Paint.blue.apply color file ++
    Paint.dimmed.apply color (":" ++ finding.span.describe) ++ "\n" ++
    "            " ++ finding.message ++ "\n" ++
    (match finding.correction with
      | some correction => correctionLine color correction
      | none => "") ++
    "\n"

/-- The lines that say what was checked. -/
def headLines (color : Bool) (path config : String) (style : Style) : String :=
  "\n  " ++ Paint.boldCyan.apply color toolName ++ " v" ++
    toolVersion ++ "\n\n" ++
    "  " ++ Paint.dimmed.apply color "Scanning: " ++ path ++ "\n" ++
    "  " ++ Paint.dimmed.apply color "Config:   " ++ config ++ "\n" ++
    "  " ++ Paint.dimmed.apply color "Style:    " ++ style.word ++ "\n\n"

/-- The lines of all findings. -/
def allFindingLines (color : Bool) (result : CheckResult) : String :=
  if result.findingCount = 0 then ""
  else
    "  " ++ Paint.bold.apply color "Findings" ++ " (" ++
      toString result.findingCount ++ "):\n\n" ++
      String.join (result.findings.map fun finding =>
        findingLines color finding.1 finding.2)

/-- The lines of the skipped manifests. -/
def skippedLines (color : Bool) (result : CheckResult) : String :=
  if result.skipped.isEmpty then ""
  else
    "  " ++ Paint.dimmed.apply color "Skipped manifests" ++ " (" ++
      toString result.skipped.length ++ "):\n" ++
      String.join (result.skipped.map fun path =>
        "    " ++ Paint.dimmed.apply color path ++ "\n") ++
      "\n"

/-- The line that says whether the check passed. -/
def statusLine (color : Bool) (result : CheckResult) : String :=
  "  " ++
    Paint.dimmed.apply color ("Declarations: " ++ toString result.scanned) ++
    "  Findings: " ++ toString result.findingCount ++ "  " ++
    (if result.hasErrors then Paint.red.apply color "FAILED"
      else Paint.green.apply color "PASSED") ++
    "\n"

/-- The text of a result for people. -/
def resultText
    (color : Bool)
    (path config : String)
    (style : Style)
    (result : CheckResult) :
    String :=
  headLines color path config style ++ allFindingLines color result ++
    skippedLines color result ++ statusLine color result ++ "\n"

end Pretty
end DocLint
