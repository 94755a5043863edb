import DocLint.Finding
import DocLint.Json.Record
import DocLint.TypeExpr.Style

/-!
# Reports as data

A report is the outcome of a check with what was checked and how.  Reports and
results are written as JSON values and read back from them.
-/

namespace DocLint

open DataFormat

/-- The name of this tool. -/
def toolName : String := "yardcheck"

/-- The version of this tool. -/
def toolVersion : String := "0.1.0"

/-- The outcome of a check, with what was checked and how. -/
structure Report where
  version : String
  path : String
  config : String
  style : Style
  passed : Bool
  scanned : Nat
  /-- Findings with the file they are in. -/
  findings : List (String × Finding)
  skipped : List String
  deriving DecidableEq, Repr

/-- The report of a result. -/
def Report.of
    (path config : String)
    (style : Style)
    (result : CheckResult) :
    Report where
  version := toolVersion
  path := path
  config := config
  style := style
  passed := !result.hasErrors
  scanned := result.scanned
  findings := result.findings
  skipped := result.skipped

namespace Span

/-- A span as a JSON value. -/
def toJson (span : Span) : Json :=
  .object
    [ ("line", .natural span.line),
      ("start_column", .natural span.startColumn),
      ("end_column", .natural span.endColumn)]

/-- Read a span. -/
def read? {ν : Type} [DataFormat ν] (value : ν) : Option Span := do
  match ← fields? ["line", "start_column", "end_column"] value with
  | [line, startColumn, endColumn] =>
    return {
      line := ← required natural? line
      startColumn := ← required natural? startColumn
      endColumn := ← required natural? endColumn }
  | _ => none

end Span

namespace Correction

/-- A correction as a JSON value. -/
def toJson (correction : Correction) : Json :=
  .object
    [("span", correction.span.toJson),
      ("replacement", .string correction.replacement)]

/-- Read a correction. -/
def read? {ν : Type} [DataFormat ν] (value : ν) : Option Correction := do
  match ← fields? ["span", "replacement"] value with
  | [span, replacement] =>
    return {
      span := ← required Span.read? span
      replacement := ← required text? replacement }
  | _ => none

end Correction

namespace Finding

/-- The members of a finding.  A correction is only written if there is one. -/
def members (finding : Finding) : List (String × Json) :=
  [ ("rule", .string finding.rule.name),
    ("message", .string finding.message),
    ("span", finding.span.toJson),
    ("severity", .string finding.severity.word)] ++
    (finding.correction.map fun correction =>
      ("correction", correction.toJson)).toList

/-- A finding as a JSON value. -/
def toJson (finding : Finding) : Json :=
  .object finding.members

/-- Read a finding from the values of its fields. -/
def ofFields?
    {ν : Type}
    [DataFormat ν]
    (rule message span severity correction : Option ν) :
    Option Finding := do
  return {
    rule := ← required (oneOf? Rule.all Rule.name) rule
    message := ← required text? message
    span := ← required Span.read? span
    severity := ← required (oneOf? Severity.all Severity.word) severity
    correction := ← optional Correction.read? correction }

/-- Read a finding. -/
def read? {ν : Type} [DataFormat ν] (value : ν) : Option Finding := do
  match ← fields?
      ["rule", "message", "span", "severity", "correction"] value with
  | [rule, message, span, severity, correction] =>
    ofFields? rule message span severity correction
  | _ => none

end Finding

namespace FileFindings

/-- The findings of a file as a JSON value. -/
def toJson (file : FileFindings) : Json :=
  .object
    [("file", .string file.file),
      ("findings", .array (file.findings.map Finding.toJson))]

/-- Read the findings of a file. -/
def read? {ν : Type} [DataFormat ν] (value : ν) : Option FileFindings := do
  match ← fields? ["file", "findings"] value with
  | [file, findings] =>
    return {
      file := ← required text? file
      findings := ← required (list? Finding.read?) findings }
  | _ => none

end FileFindings

namespace CheckResult

/-- A result as a JSON value. -/
def toJson (result : CheckResult) : Json :=
  .object
    [ ("files", .array (result.files.map FileFindings.toJson)),
      ("scanned", .natural result.scanned),
      ("skipped", .array (result.skipped.map Json.string))]

/-- Read a result. -/
def read? {ν : Type} [DataFormat ν] (value : ν) : Option CheckResult := do
  match ← fields? ["files", "scanned", "skipped"] value with
  | [files, scanned, skipped] =>
    return {
      files := ← required (list? FileFindings.read?) files
      scanned := ← required natural? scanned
      skipped := ← withDefault [] (list? text?) skipped }
  | _ => none

end CheckResult

namespace Report

/-- A finding of a report as a JSON value, with its file in front. -/
def findingToJson (finding : String × Finding) : Json :=
  .object (("file", .string finding.1) :: finding.2.members)

/-- Read a finding of a report.  It is a table: the fields of the finding stand
beside the file, and a list has no order for the two together. -/
def readFinding?
    {ν : Type}
    [DataFormat ν]
    (value : ν) :
    Option (String × Finding) := do
  let _ ← entries? value
  match ← fields?
      ["file", "rule", "message", "span", "severity", "correction"] value with
  | [file, rule, message, span, severity, correction] =>
    return (← required text? file,
      ← Finding.ofFields? rule message span severity correction)
  | _ => none

/-- A report as a JSON value.  Skipped manifests are only written if there are
some. -/
def toJson (report : Report) : Json :=
  .object <|
    [ ("version", .string report.version),
      ("path", .string report.path),
      ("config", .string report.config),
      ("style", .string report.style.word),
      ("passed", .bool report.passed),
      ("declarations_scanned", .natural report.scanned),
      ("findings", .array (report.findings.map findingToJson))] ++
      if report.skipped.isEmpty then []
      else [("skipped_manifests", .array (report.skipped.map Json.string))]

/-- Read a report. -/
def read? {ν : Type} [DataFormat ν] (value : ν) : Option Report := do
  match ← fields? ["version", "path", "config", "style", "passed",
      "declarations_scanned", "findings", "skipped_manifests"] value with
  | [version, path, config, style, passed, scanned, findings, skipped] =>
    return {
      version := ← required text? version
      path := ← required text? path
      config := ← required text? config
      style := ← required (oneOf? Style.all Style.word) style
      passed := ← required flag? passed
      scanned := ← required natural? scanned
      findings := ← required (list? readFinding?) findings
      skipped := ← withDefault [] (list? text?) skipped }
  | _ => none

end Report
end DocLint
