import DocLint.Comment
import DocLint.Tag.Basic

/-!
# Findings

A finding is one thing that is wrong with a documentation comment: the rule that
it breaks, what is told about it, where it stands, how severe it is, and perhaps
how to correct it.
-/

namespace DocLint

/-- How severe a finding is. -/
inductive Severity
  | error
  | warning
  | info
  deriving DecidableEq, Repr

namespace Severity

/-- The word for a severity. -/
def word : Severity → String
  | .error => "error"
  | .warning => "warning"
  | .info => "info"

/-- All severities. -/
def all : List Severity := [.error, .warning, .info]

/-- Read the word for a severity, in any case. -/
def ofWord? (text : String) : Option Severity :=
  all.find? fun severity => severity.word == text.toLower

end Severity

/-- What a finding is about. -/
inductive Rule
  /-- A collection is written in the other style. -/
  | collectionStyle
  /-- A reserved name stands on the wrong brackets. -/
  | collectionType
  /-- A list of types cannot be read. -/
  | tagTypeSyntax
  /-- Square brackets stand where no types are expected. -/
  | tagTypePosition
  /-- A tag names no parameter of the method. -/
  | unknownParamName
  /-- A tag has no name or no types. -/
  | incompleteTag
  /-- A parameter has no tag. -/
  | undocumentedArgument
  /-- A tag for a parameter stands on something without parameters. -/
  | meaninglessTag
  deriving DecidableEq, Repr

namespace Rule

/-- All rules. -/
def all : List Rule :=
  [.collectionStyle, .collectionType, .tagTypeSyntax, .tagTypePosition,
    .unknownParamName, .incompleteTag, .undocumentedArgument, .meaninglessTag]

/-- The name of a rule. -/
def name : Rule → String
  | .collectionStyle => "collection_style"
  | .collectionType => "collection_type"
  | .tagTypeSyntax => "tag_type_syntax"
  | .tagTypePosition => "tag_type_position"
  | .unknownParamName => "unknown_param_name"
  | .incompleteTag => "incomplete_tag"
  | .undocumentedArgument => "undocumented_argument"
  | .meaninglessTag => "meaningless_tag"

/-- The rule of a name. -/
def ofName? (name : String) : Option Rule :=
  all.find? fun rule => rule.name == name

/-- The severity of a rule that is not configured. -/
def defaultSeverity : Rule → Severity
  | .tagTypeSyntax | .unknownParamName => .error
  | .collectionStyle => .info
  | .collectionType | .tagTypePosition | .incompleteTag | .undocumentedArgument
  | .meaninglessTag => .warning

end Rule

/-- Byte columns of one source line, the end not included. -/
structure Span where
  line : Nat
  startColumn : Nat
  endColumn : Nat
  deriving DecidableEq, Repr

namespace Span

/-- The span between two columns; empty if the end is in front of the start. -/
def between (line startColumn endColumn : Nat) : Span :=
  ⟨line, startColumn, max endColumn startColumn⟩

/-- The empty span at a column. -/
def point (line column : Nat) : Span :=
  between line column column

/-- The span of a place. -/
def ofPlace (place : Place) : Span :=
  between place.line place.startColumn place.endColumn

/-- The span of a whole comment. -/
def ofComment (comment : CommentLine) : Span :=
  between comment.line comment.column comment.endColumn

/-- Whether the span holds no column. -/
def isEmpty (span : Span) : Bool :=
  span.startColumn == span.endColumn

/-- Line and column of the start, both counted from one. -/
def describe (span : Span) : String :=
  toString span.line ++ ":" ++ toString (span.startColumn + 1)

end Span

/-- A text to put in place of a span; an empty span is a place to insert it. -/
structure Correction where
  span : Span
  replacement : String
  deriving DecidableEq, Repr

/-- One thing that is wrong. -/
structure Finding where
  rule : Rule
  message : String
  span : Span
  severity : Severity
  correction : Option Correction
  deriving DecidableEq, Repr

namespace Finding

/-- A finding without a correction, as severe as its rule. -/
def of (rule : Rule) (message : String) (span : Span) : Finding :=
  ⟨rule, message, span, rule.defaultSeverity, none⟩

/-- The finding with a text to put in place of its own span. -/
def replacedBy (finding : Finding) (replacement : String) : Finding :=
  { finding with correction := some ⟨finding.span, replacement⟩ }

end Finding

/-- The findings of one source file. -/
structure FileFindings where
  file : String
  findings : List Finding
  deriving DecidableEq, Repr

/-- The outcome of checking some manifests. -/
structure CheckResult where
  files : List FileFindings
  /-- How many declarations were checked. -/
  scanned : Nat
  /-- The manifests that could not be read. -/
  skipped : List String
  deriving DecidableEq, Repr

namespace CheckResult

/-- The outcome of checking nothing. -/
def empty : CheckResult := ⟨[], 0, []⟩

/-- Two outcomes together. -/
def merge (left right : CheckResult) : CheckResult :=
  ⟨left.files ++ right.files, left.scanned + right.scanned,
    left.skipped ++ right.skipped⟩

/-- All findings with the file they are in. -/
def findings (result : CheckResult) : List (String × Finding) :=
  result.files.flatMap fun file =>
    file.findings.map fun finding => (file.file, finding)

/-- How many findings there are. -/
def findingCount (result : CheckResult) : Nat :=
  result.findings.length

/-- Whether some finding is an error. -/
def hasErrors (result : CheckResult) : Bool :=
  result.findings.any fun finding => finding.2.severity == .error

end CheckResult
end DocLint
