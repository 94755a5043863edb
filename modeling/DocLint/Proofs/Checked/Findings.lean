import DocLint.Checker
import DocLint.Proofs.Arrangement
import DocLint.Proofs.Checked.Extract
import DocLint.Proofs.Checked.Parser
import DocLint.Proofs.CorrectionSpan

/-!
# Checking without a fault

All checks of a declaration, with every operation on positions done by one that
can fail.  Each step is shown to give what the check of `Checker` gives, so the
whole of it gives the same findings: no text is cut outside of it or inside a
character, nothing is taken away from a smaller number, and no list turns out to
be empty, whatever the declaration and the configuration are.
-/

namespace DocLint
namespace Checked

open Text

/-! ## Places -/

/-- The place of a part of a text, unless the part crosses the end of a line. -/
def locate
    (text : TagText)
    (start stop : Nat) : Except Fault (Option Place) :=
  match text.pieceAt? start with
  | none => return none
  | some piece =>
    if piece.offset + piece.length < stop then
      return none
    else do
      let startColumn ← subtract (piece.column + start) piece.offset
      let endColumn ← subtract (piece.column + stop) piece.offset
      return some ⟨piece.line, startColumn, endColumn⟩

/-- The place from a byte position of a text to the end of its line. -/
def locateToLineEnd (text : TagText) (offset : Nat) : Except Fault Place :=
  match text.pieceAt? offset with
  | none => return text.place
  | some piece => do
    let skipped ← subtract offset piece.offset
    return ⟨piece.line, piece.column + min skipped piece.length,
      piece.column + piece.length⟩

section Places

variable {text : TagText}

/-- The piece at a position starts there or before it. -/
theorem offset_le_of_pieceAt?
    {offset : Nat}
    {piece : Piece}
    (found : text.pieceAt? offset = some piece) :
    piece.offset ≤ offset := by
  simpa using List.find?_some found

theorem locate_eq
    {start stop : Nat}
    (ordered : start ≤ stop) :
    locate text start stop = .ok (text.locate? start stop) := by
  rw [locate, TagText.locate?]
  cases found : text.pieceAt? start with
  | none => rfl
  | some piece =>
      have offset := offset_le_of_pieceAt? found
      have startColumn : piece.column + start - piece.offset =
          piece.column + (start - piece.offset) := by
        omega
      have endColumn : piece.column + stop - piece.offset =
          piece.column + (stop - piece.offset) := by
        omega
      dsimp only
      split
      · rfl
      · rw [subtract_of_le (by omega), ok_bind, subtract_of_le (by omega),
          ok_bind, startColumn, endColumn]
        rfl

theorem locateToLineEnd_eq (offset : Nat) :
    locateToLineEnd text offset = .ok (text.locateToLineEnd offset) := by
  rw [locateToLineEnd, TagText.locateToLineEnd]
  cases found : text.pieceAt? offset with
  | none => rfl
  | some piece =>
      dsimp only
      rw [subtract_of_le (offset_le_of_pieceAt? found), ok_bind]
      rfl

end Places

/-! ## Types of tags -/

/-- The finding for types that cannot be read. -/
def syntaxFinding
    (types : TagText)
    (error : SyntaxError) : Except Fault Finding := do
  let place ← locateToLineEnd types error.offset
  return Finding.of .tagTypeSyntax ("(SyntaxError) " ++ error.message)
    (Span.between place.line place.startColumn
      (max place.endColumn (place.startColumn + 1)))

/-- The findings for one alternative. -/
def alternativeFindings
    (types : TagText)
    (style : Style)
    (alternative : Alternative) : Except Fault (List Finding) := do
  let raw ← partBetween types.text.toList alternative.start alternative.stop
  let located ← locate types alternative.start alternative.stop
  let place ←
    match located with
    | some place => pure place
    | none => locateToLineEnd types alternative.start
  let report (rule : Rule) (message : String) : Finding :=
    let finding := Finding.of rule message (Span.ofPlace place)
    if located.isSome then
      finding.replacedBy (Check.correctedText style alternative)
    else finding
  let mismatches := alternative.type.mismatches.map fun mismatch =>
    report .collectionType mismatch.1.message
  let styles :=
    if sameIgnoringBlanks raw (alternative.type.chars style) then []
    else
      [report .collectionStyle
        ("`" ++ String.ofList raw ++ "` is using " ++ style.opposite.word ++
          " style syntax")]
  return mismatches ++ styles

/-- The findings for the types of a tag. -/
def tagTypes (style : Style) (tag : Tag) : Except Fault (List Finding) :=
  match tag.types with
  | none => return []
  | some types =>
    if tag.kind.isTyped then
      match parseAlternatives types.text.toList with
      | .ok alternatives => do
        let findings ← alternatives.mapM (alternativeFindings types style)
        return findings.flatten
      | .error (.refused error) => do
        let finding ← syntaxFinding types error
        return [finding]
      | .error (.fault fault) => throw fault
    else return []

/-- An alternative is cut out of its types, and its place is found. -/
theorem alternativeFindings_eq
    {types : TagText}
    {alternatives : List Alternative}
    (parsed : TypeExpr.parseAlternatives types.text.toList = .ok alternatives)
    (style : Style)
    {alternative : Alternative}
    (member : alternative ∈ alternatives) :
    alternativeFindings types style alternative =
      .ok (Check.alternativeFindings types style alternative) := by
  obtain ⟨raw, standsOn, _⟩ := exists_raw_of_parsed parsed member
  have rawEq := Check.rawText_eq standsOn
  obtain ⟨⟨front, back, textEq, start⟩, stop⟩ := standsOn
  have cut : partBetween types.text.toList alternative.start
      alternative.stop = .ok raw := by
    rw [stop, start, Nat.zero_add, textEq]
    exact partBetween_append front raw back
  rw [alternativeFindings, cut, ok_bind, locate_eq (by omega), ok_bind,
    Check.alternativeFindings, Check.alternativeSpan, rawEq]
  cases types.locate? alternative.start alternative.stop with
  | some place => rfl
  | none =>
      dsimp only
      rw [locateToLineEnd_eq]
      rfl

theorem tagTypes_eq (style : Style) (tag : Tag) :
    tagTypes style tag = .ok (Check.tagTypes style tag) := by
  rw [tagTypes, Check.tagTypes]
  cases tag.types with
  | none => rfl
  | some types =>
      dsimp only
      split
      · rw [parseAlternatives_eq]
        cases parsed : TypeExpr.parseAlternatives types.text.toList with
        | error error =>
            simp only [Except.mapError]
            rw [syntaxFinding, locateToLineEnd_eq]
            rfl
        | ok alternatives =>
            have done := mapM_eq_ok fun alternative member =>
              alternativeFindings_eq parsed style member
            simp only [Except.mapError]
            rw [done, ok_bind, List.flatMap_def]
            rfl
      · rfl

/-! ## Parameters -/

/-- The finding for one tag of a method. -/
def tagFinding?
    (names : List String)
    (comment : CommentLine)
    (tag : Tag) : Except Fault (Option Finding) :=
  match tag.name, tag.types with
  | none, _ =>
    return some <| Finding.of .incompleteTag
      ("No tag name is supplied in `@" ++ tag.directive ++ "`")
      (Span.ofComment comment)
  | some _, none =>
    return some <| Finding.of .incompleteTag
      ("No types are associated with the tag in `@" ++ tag.directive ++ "`")
      (Span.ofComment comment)
  | some name, some types =>
    if names.contains name.text then
      return none
    else
      match parseAlternatives types.text.toList with
      | .error (.refused _) => return none
      | .error (.fault fault) => throw fault
      | .ok _ =>
        return some <| Finding.of .unknownParamName
          ("`" ++ name.text ++ "` is not found in method arguments of [" ++
            ", ".intercalate names ++ "]")
          (Span.ofPlace name.place)

/-- The finding for one tag of a method, if its line is there. -/
def reconciledTag?
    (declaration : Declaration)
    (tag : Tag) : Except Fault (Option Finding) :=
  match declaration.comments[tag.lineIndex]? with
  | none => return none
  | some comment => tagFinding? declaration.parameterNames comment tag

/-- The findings for the tags of a method. -/
def reconciledTags
    (declaration : Declaration)
    (tags : List Tag) : Except Fault (List Finding) := do
  let findings ←
    (tags.filter Check.isReconciled).mapM (reconciledTag? declaration)
  return findings.filterMap id

/-- The findings for the tags and parameters of a method. -/
def arguments
    (declaration : Declaration)
    (tags : List Tag)
    (prototype : Prototype) : Except Fault (List Finding) :=
  if declaration.kind ≠ .method ∨ declaration.parameters.isEmpty ∨
      tags.any fun tag => tag.kind == .overload then
    return []
  else do
    let findings ← reconciledTags declaration tags
    return findings ++ Check.undocumentedArguments declaration tags prototype

section Arguments

variable (declaration : Declaration)
variable (tags : List Tag)

theorem tagFinding?_eq
    (names : List String)
    (comment : CommentLine)
    (tag : Tag) :
    tagFinding? names comment tag = .ok (Check.tagFinding? names comment tag) := by
  rw [tagFinding?, Check.tagFinding?]
  cases tag.name with
  | none => rfl
  | some name =>
      cases tag.types with
      | none => rfl
      | some types =>
          dsimp only
          split
          · rfl
          · rw [parseAlternatives_eq, TypeExpr.parse]
            cases TypeExpr.parseAlternatives types.text.toList with
            | error error => rfl
            | ok alternatives => rfl

theorem reconciledTag?_eq (tag : Tag) :
    reconciledTag? declaration tag =
      .ok (do
        let comment ← declaration.comments[tag.lineIndex]?
        Check.tagFinding? declaration.parameterNames comment tag) := by
  rw [reconciledTag?]
  cases declaration.comments[tag.lineIndex]? with
  | none => rfl
  | some comment => exact tagFinding?_eq declaration.parameterNames comment tag

theorem reconciledTags_eq :
    reconciledTags declaration tags =
      .ok (Check.reconciledTags declaration tags) := by
  rw [reconciledTags, mapM_eq_ok fun tag _ => reconciledTag?_eq declaration tag,
    ok_bind, List.filterMap_map]
  rfl

theorem arguments_eq (prototype : Prototype) :
    arguments declaration tags prototype =
      .ok (Check.arguments declaration tags prototype) := by
  rw [arguments, Check.arguments]
  split
  · rfl
  · rw [reconciledTags_eq]
    rfl

end Arguments

/-! ## Declarations -/

/-- All findings for a declaration, whether their rules are enabled or not. -/
def allFindings
    (settings : Settings)
    (declaration : Declaration) : Except Fault (List Finding) := do
  let tags ← extract declaration.comments
  let typeFindings ← tags.mapM (tagTypes settings.style)
  let parameterFindings ←
    match declaration.kind with
    | .method => arguments declaration tags settings.prototype
    | _ => pure (Check.meaninglessTags declaration tags)
  return typeFindings.flatten ++
    Check.tagPositions declaration.comments tags ++ parameterFindings

/-- The findings for a declaration. -/
def check
    (config : Config)
    (declaration : Declaration) : Except Fault (List Finding) := do
  let settings := Settings.resolve config
  let findings ← allFindings settings declaration
  return (findings.filter fun finding => settings.isEnabled finding.rule).map
    fun finding => { finding with severity := settings.severity finding.rule }

theorem allFindings_eq
    (settings : Settings)
    (declaration : Declaration) :
    allFindings settings declaration =
      .ok (settings.allFindings declaration) := by
  rw [allFindings, extract_eq, ok_bind,
    mapM_eq_ok fun tag _ => tagTypes_eq settings.style tag, ok_bind,
    Settings.allFindings, List.flatMap_def]
  cases declaration.kind with
  | method =>
      dsimp only
      rw [arguments_eq]
      rfl
  | _ => rfl

end Checked

/-- Checking a declaration never fails: every text is cut inside of it and
between two characters, every number is taken away from one that is not smaller,
and every list that is asked for its first item has one.  The findings are those
of the checker. -/
theorem check_without_fault
    (config : Config)
    (declaration : Declaration) :
    Checked.check config declaration =
      .ok ((Checker.mk config none).check declaration) := by
  rw [Checked.check, Checked.allFindings_eq]
  rfl

end DocLint
