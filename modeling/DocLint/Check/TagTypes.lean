import DocLint.Finding
import DocLint.TypeExpr.Mismatch
import DocLint.TypeExpr.Parser
import DocLint.TypeExpr.Style

/-!
# Checking the types of a tag

Each alternative of a list of types is checked on its own: reserved names on the
wrong brackets, and collections in the other style.  An alternative on one
source line is corrected as a whole; one that goes on over several lines is
reported up to the end of its first line, without a correction.
-/

namespace DocLint
namespace Check

open Text

/-- The finding for types that cannot be read: from the error to the end of its
line, and at least one column. -/
def syntaxFinding (types : TagText) (error : SyntaxError) : Finding :=
  let place := types.locateToLineEnd error.offset
  Finding.of .tagTypeSyntax ("(SyntaxError) " ++ error.message)
    (Span.between place.line place.startColumn
      (max place.endColumn (place.startColumn + 1)))

/-- Where an alternative is reported. -/
def alternativeSpan (types : TagText) (alternative : Alternative) : Span :=
  Span.ofPlace <|
    (types.locate? alternative.start alternative.stop).getD
      (types.locateToLineEnd alternative.start)

/-- The written form of an alternative with every mismatch corrected. -/
def correctedText (style : Style) (alternative : Alternative) : String :=
  alternative.type.correct.render style

/-- The text of an alternative as written. -/
def rawText (types : TagText) (alternative : Alternative) : List Char :=
  slice types.text.toList alternative.start alternative.stop

/-- The findings for one alternative. -/
def alternativeFindings
    (types : TagText)
    (style : Style)
    (alternative : Alternative) :
    List Finding :=
  let span := alternativeSpan types alternative
  let report (rule : Rule) (message : String) : Finding :=
    let finding := Finding.of rule message span
    if (types.locate? alternative.start alternative.stop).isSome then
      finding.replacedBy (correctedText style alternative)
    else finding
  let raw := rawText types alternative
  let mismatches := alternative.type.mismatches.map fun mismatch =>
    report .collectionType mismatch.1.message
  let styles :=
    if sameIgnoringBlanks raw (alternative.type.chars style) then []
    else
      [report .collectionStyle
        ("`" ++ String.ofList raw ++ "` is using " ++ style.opposite.word ++
          " style syntax")]
  mismatches ++ styles

/-- The findings for the types of a tag.  Tags that carry no types have none. -/
def tagTypes (style : Style) (tag : Tag) : List Finding :=
  match tag.types with
  | none => []
  | some types =>
    if tag.kind.isTyped then
      match TypeExpr.parseAlternatives types.text.toList with
      | .ok alternatives =>
        alternatives.flatMap (alternativeFindings types style)
      | .error error => [syntaxFinding types error]
    else []

end Check
end DocLint
