import DocLint.Json.Basic
import DocLint.Report.Paint
import DocLint.TypeExpr.Mismatch
import DocLint.TypeExpr.Parser
import DocLint.TypeExpr.Style

/-!
# Reports on a single text of types

A text of types is read, written in a style, and corrected where reserved names
stand on the wrong brackets.
-/

namespace DocLint

/-- What is told about a text of types. -/
structure TypeReport where
  input : String
  style : Style
  /-- The types as given, written in the style. -/
  rendered : Option String
  /-- The types with every mismatch corrected, if there is one. -/
  corrected : Option String
  /-- What is told about the mismatches. -/
  mismatches : List String
  error : Option String
  deriving DecidableEq, Repr

namespace TypeReport

/-- The report on a text. -/
def of (input : String) (style : Style) : TypeReport :=
  match TypeExpr.parse input.toList with
  | .ok types =>
    let mismatches :=
      (types.flatMap TypeExpr.mismatches).map fun found => found.1.message
    { input, style, mismatches
      rendered := some (TypeExpr.renderList style types)
      corrected :=
        if mismatches.isEmpty then none
        else some (TypeExpr.renderList style (types.map TypeExpr.correct))
      error := none }
  | .error error =>
    { input, style
      rendered := none
      corrected := none
      mismatches := []
      error :=
        some (error.message ++ " (offset " ++ toString error.offset ++ ")") }

/-- Whether there is nothing wrong. -/
def isClean (report : TypeReport) : Bool :=
  report.error.isNone && report.mismatches.isEmpty

/-- A report as a JSON value, without what is absent. -/
def toJson (report : TypeReport) : Json :=
  let present (name : String) (text : Option String) : List (String × Json) :=
    (text.map fun text => (name, Json.string text)).toList
  .object <|
    [("input", .string report.input), ("style", .string report.style.word)] ++
      present "rendered" report.rendered ++
      present "corrected" report.corrected ++
      (if report.mismatches.isEmpty then []
        else [("mismatches", .array (report.mismatches.map Json.string))]) ++
      present "error" report.error

/-- The text of a report for people. -/
def prettyText (color : Bool) (report : TypeReport) : String :=
  match report.error with
  | some error => Paint.red.apply color "SyntaxError" ++ " " ++ error ++ "\n"
  | none =>
    let line (text : String) : String := text ++ "\n"
    ((report.rendered.map line).getD "") ++
      String.join (report.mismatches.map fun mismatch =>
        line ("  " ++ Paint.yellow.apply color "WARN " ++ " " ++ mismatch)) ++
      ((report.corrected.map fun corrected =>
        line ("  " ++ Paint.dimmed.apply color "did you mean:" ++ " " ++
          Paint.green.apply color corrected)).getD "")

end TypeReport
end DocLint
