import Mathlib.Data.List.DropRight
import DocLint.Proofs.CollectionCorrections
import DocLint.Proofs.IndependentSettings
import DocLint.Proofs.ParameterTags
import DocLint.Report.TypeReport

/-!
# Reports on types and findings about types

The report on a single text of types and the check of a tag with that text read
the text with the same reader.  The report looks at all types at once, the check
at each alternative with its place; they tell the same mismatches in the same
order, the same syntax error, and the report's correction is made of what the
check puts in place of each alternative.
-/

namespace DocLint

/-! ## Where an error was found -/

theorem rtakeWhile_isDigit
    (front : List Char)
    {digits : List Char}
    (areDigits : ∀ c ∈ digits, c.isDigit = true) :
    (front ++ ' ' :: digits).rtakeWhile Char.isDigit = digits := by
  have reversed : ∀ c ∈ digits.reverse, c.isDigit = true := by
    simpa using areDigits
  rw [List.rtakeWhile, List.reverse_append, List.reverse_cons,
    List.append_assoc, List.takeWhile_append_of_pos reversed]
  simp

/-- A message is told apart from the offset behind it, whatever it holds. -/
theorem message_eq_of_offset
    {left right : String}
    {leftOffset rightOffset : Nat}
    (same : left ++ " (offset " ++ toString leftOffset ++ ")" =
      right ++ " (offset " ++ toString rightOffset ++ ")") :
    left = right := by
  have areDigits (offset : Nat) :
      ∀ c ∈ Nat.toDigits 10 offset, c.isDigit = true := by
    intro c member
    exact Nat.isDigit_of_mem_toDigits (by decide) (by decide) member
  have chars (text : String) (offset : Nat) :
      (text ++ " (offset " ++ toString offset ++ ")").toList =
        (text.toList ++ " (offset".toList) ++ ' ' :: Nat.toDigits 10 offset ++
          [')'] := by
    simp
  have lists := congrArg String.toList same
  rw [chars, chars] at lists
  have numbered := List.append_cancel_right lists
  have digits := congrArg (List.rtakeWhile Char.isDigit) numbered
  rw [rtakeWhile_isDigit _ (areDigits leftOffset),
    rtakeWhile_isDigit _ (areDigits rightOffset)] at digits
  rw [digits] at numbered
  have texts := List.append_cancel_right (List.append_cancel_right numbered)
  exact String.toList_injective texts

/-! ## Lists of written forms -/

namespace TypeExpr

theorem renderList_eq_intercalate (style : Style) (types : List TypeExpr) :
    renderList style types = ", ".intercalate (types.map (render style)) := by
  induction types with
  | nil => rfl
  | cons type rest hypothesis =>
      cases rest with
      | nil => simp [renderList, render, charsOfList, charsOfRest]
      | cons next more =>
          have divider : ", " = String.ofList [',', ' '] := by decide
          rw [List.map_cons, List.map_cons, String.intercalate_cons_cons,
            ← List.map_cons, ← hypothesis, renderList, renderList, render,
            charsOfList, charsOfRest_cons, divider, ← String.ofList_append,
            ← String.ofList_append, List.append_assoc]
          rfl

end TypeExpr

/-! ## What the report says -/

namespace TypeExpr

/-- What a report tells about the mismatches of types. -/
def mismatchMessages (types : List TypeExpr) : List String :=
  (types.flatMap mismatches).map fun found => found.1.message

end TypeExpr

namespace TypeReport

variable {input : String}

section Read

variable {types : List TypeExpr}
variable (read : TypeExpr.parse input.toList = .ok types)
variable (style : Style)

include read

theorem error_of_read : (of input style).error = none := by
  unfold of
  rw [read]

theorem rendered_of_read :
    (of input style).rendered = some (TypeExpr.renderList style types) := by
  unfold of
  rw [read]

theorem mismatches_of_read :
    (of input style).mismatches = TypeExpr.mismatchMessages types := by
  unfold of
  rw [read]
  rfl

theorem corrected_of_read :
    (of input style).corrected =
      if (TypeExpr.mismatchMessages types).isEmpty then none
      else some (TypeExpr.renderList style (types.map TypeExpr.correct)) := by
  unfold of
  rw [read]
  rfl

end Read

theorem exists_read
    {style : Style}
    (noError : (of input style).error = none) :
    ∃ types, TypeExpr.parse input.toList = .ok types := by
  cases read : TypeExpr.parse input.toList with
  | ok types => exact ⟨types, rfl⟩
  | error error =>
      unfold of at noError
      rw [read] at noError
      exact absurd noError (by simp)

theorem error_of_unreadable
    {error : SyntaxError}
    (unreadable : TypeExpr.parseAlternatives input.toList = .error error)
    (style : Style) :
    (of input style).error =
      some (error.message ++ " (offset " ++ toString error.offset ++ ")") := by
  unfold of
  rw [TypeExpr.parse_eq_error_iff.mpr unreadable]

section Readable

variable {alternatives : List Alternative}
variable (parsed : TypeExpr.parseAlternatives input.toList = .ok alternatives)
variable (style : Style)

include parsed

theorem error_of_parsed : (of input style).error = none :=
  error_of_read (TypeExpr.parse_eq_ok_of_alternatives parsed) style

theorem mismatches_of_parsed :
    (of input style).mismatches =
      ((alternatives.map Alternative.type).flatMap TypeExpr.mismatches).map
        fun found => found.1.message :=
  mismatches_of_read (TypeExpr.parse_eq_ok_of_alternatives parsed) style

/-- The correction of a text puts the corrections of its alternatives next to
each other. -/
theorem corrected_of_parsed :
    (of input style).corrected =
      if (of input style).mismatches.isEmpty then none
      else some (", ".intercalate (alternatives.map fun alternative =>
        alternative.type.correct.render style)) := by
  have read := TypeExpr.parse_eq_ok_of_alternatives parsed
  rw [corrected_of_read read, mismatches_of_read read]
  simp only [TypeExpr.renderList_eq_intercalate, List.map_map]
  rfl

end Readable

end TypeReport

/-! ## What is found in a tag -/

/-- What the findings of a rule tell, in their order. -/
def messagesOf (rule : Rule) (findings : List Finding) : List String :=
  (findings.filter fun finding => finding.rule == rule).map Finding.message

theorem messagesOf_eq_nil_iff
    {rule : Rule}
    {findings : List Finding} :
    messagesOf rule findings = [] ↔
      ∀ finding ∈ findings, finding.rule ≠ rule := by
  simp [messagesOf]

namespace Check

/-- The findings of an alternative about mismatches are all but those about
styles. -/
theorem filter_alternativeFindings
    (types : TagText)
    (style : Style)
    (alternative : Alternative) :
    ((alternativeFindings types style alternative).filter fun finding =>
        finding.rule == .collectionType) =
      alternative.type.mismatches.map fun mismatch =>
        reported types style alternative .collectionType
          mismatch.1.message := by
  rw [← withoutRule_alternativeFindings, withoutRule]
  apply List.filter_congr
  intro finding member
  rw [alternativeFindings_eq] at member
  obtain ⟨complaint, complains, rfl⟩ := List.mem_map.mp member
  have isCollection := isCollection_of_mem_complaints complains
  change (complaint.1 == .collectionType) = (complaint.1 != .collectionStyle)
  revert isCollection
  cases complaint.1 <;> decide

theorem messagesOf_alternatives
    (types : TagText)
    (style : Style)
    (alternatives : List Alternative) :
    messagesOf .collectionType
        (alternatives.flatMap (alternativeFindings types style)) =
      ((alternatives.map Alternative.type).flatMap TypeExpr.mismatches).map
        fun found => found.1.message := by
  rw [messagesOf, List.filter_flatMap, List.map_flatMap, List.flatMap_map,
    List.map_flatMap]
  apply List.flatMap_congr
  intro alternative _
  rw [filter_alternativeFindings, List.map_map]
  rfl

theorem replacement_of_mem_alternativeFindings
    {types : TagText}
    {style : Style}
    {alternative : Alternative}
    {finding : Finding}
    (member : finding ∈ alternativeFindings types style alternative)
    {correction : Correction}
    (corrects : finding.correction = some correction) :
    correction.replacement = alternative.type.correct.render style := by
  rw [alternativeFindings_eq] at member
  obtain ⟨complaint, _, rfl⟩ := List.mem_map.mp member
  by_cases located :
      (types.locate? alternative.start alternative.stop).isSome = true
  · rw [correction_reported_of_located located] at corrects
    cases corrects
    rfl
  · rw [correction_reported_of_not_located located] at corrects
    cases corrects

section Typed

variable {tag : Tag}
variable {types : TagText}
variable (isTyped : tag.kind.isTyped = true)
variable (hasTypes : tag.types = some types)
variable (style : Style)

include isTyped hasTypes

theorem tagTypes_of_readable
    {alternatives : List Alternative}
    (parsed : TypeExpr.parseAlternatives types.text.toList = .ok alternatives) :
    tagTypes style tag =
      alternatives.flatMap (alternativeFindings types style) := by
  simp only [tagTypes, hasTypes, isTyped, if_true, parsed]

theorem tagTypes_of_unreadable
    {error : SyntaxError}
    (unreadable : TypeExpr.parseAlternatives types.text.toList =
      .error error) :
    tagTypes style tag = [syntaxFinding types error] := by
  simp only [tagTypes, hasTypes, isTyped, if_true, unreadable]

end Typed

/-- The check of a tag and the report on the text of its types agree.  Where the
report tells an error, the tag has one finding, with that error's message.
Otherwise there is no error; the messages of the findings about mismatches are
the mismatches of the report; and the report has a correction exactly if there
is such a finding, which is then made of the texts that correct each
alternative. -/
theorem tagTypes_agrees_typeReport
    {tag : Tag}
    {types : TagText}
    (isTyped : tag.kind.isTyped = true)
    (hasTypes : tag.types = some types)
    (style : Style) :
    (∀ message offset,
      (TypeReport.of types.text style).error =
          some (message ++ " (offset " ++ toString (offset : Nat) ++ ")") →
        ∃ span, tagTypes style tag =
          [Finding.of .tagTypeSyntax ("(SyntaxError) " ++ message) span]) ∧
    ((∀ message offset,
      (TypeReport.of types.text style).error ≠
          some (message ++ " (offset " ++ toString (offset : Nat) ++ ")")) →
        (TypeReport.of types.text style).error = none ∧
        messagesOf .collectionType (tagTypes style tag) =
          (TypeReport.of types.text style).mismatches ∧
        ((TypeReport.of types.text style).corrected.isSome = true ↔
          ∃ finding ∈ tagTypes style tag, finding.rule = .collectionType) ∧
        ∃ alternatives,
          TypeExpr.parseAlternatives types.text.toList = .ok alternatives ∧
          tagTypes style tag =
            alternatives.flatMap (alternativeFindings types style) ∧
          (∀ alternative ∈ alternatives,
            ∀ finding ∈ alternativeFindings types style alternative,
              ∀ correction, finding.correction = some correction →
                correction.replacement =
                  alternative.type.correct.render style) ∧
          ∀ corrected,
            (TypeReport.of types.text style).corrected = some corrected →
              corrected = ", ".intercalate (alternatives.map fun alternative =>
                alternative.type.correct.render style)) := by
  cases parsed : TypeExpr.parseAlternatives types.text.toList with
  | error error =>
      have reportError := TypeReport.error_of_unreadable parsed style
      refine ⟨?_, fun noError => absurd reportError (noError _ _)⟩
      intro message offset isError
      rw [reportError] at isError
      have same := message_eq_of_offset (Option.some.inj isError)
      rw [tagTypes_of_unreadable isTyped hasTypes style parsed, ← same]
      exact ⟨_, rfl⟩
  | ok alternatives =>
      have noError := TypeReport.error_of_parsed parsed style
      have corrected := TypeReport.corrected_of_parsed parsed style
      have findings := tagTypes_of_readable isTyped hasTypes style parsed
      have messages : messagesOf .collectionType (tagTypes style tag) =
          (TypeReport.of types.text style).mismatches := by
        rw [findings, messagesOf_alternatives,
          TypeReport.mismatches_of_parsed parsed]
      refine ⟨?_, fun _ => ⟨noError, messages, ?_, alternatives, rfl, findings,
        ?_, ?_⟩⟩
      · intro message offset isError
        rw [noError] at isError
        cases isError
      · rw [corrected, ← messages]
        split
        · rename_i empty
          have absent := messagesOf_eq_nil_iff.mp (List.isEmpty_iff.mp empty)
          simpa using absent
        · rename_i nonempty
          have present := mt messagesOf_eq_nil_iff.mpr
            (mt List.isEmpty_iff.mpr nonempty)
          simpa using present
      · intro alternative _ finding member correction corrects
        exact replacement_of_mem_alternativeFindings member corrects
      · intro text isCorrected
        rw [corrected] at isCorrected
        split at isCorrected
        · cases isCorrected
        · exact (Option.some.inj isCorrected).symm

/-! ## Types on two lines -/

/-- A comment whose types have two mismatches, the second over two lines. -/
def mismatchedLines : List CommentLine :=
  [⟨3, 2, "# @param [Hash(é), Hash<A,", true⟩, ⟨4, 2, "#   B>] x", true⟩]

/-- The tag of that comment. -/
def mismatchedTag : Tag where
  kind := .param
  directive := "param"
  lineIndex := 0
  name := some ⟨"x", ⟨0, 1, 4, 10⟩, []⟩
  key := none
  types := some ⟨"Hash(é), Hash<A,\n  B>", ⟨0, 17, 3, 12⟩, [⟨18, 4, 4, 4⟩]⟩
  misplacedTypes := none
  text := " [Hash(é), Hash<A,\n  B>] x"

/-- A comment whose types cannot be read from their second line on. -/
def unreadableLines : List CommentLine :=
  [⟨3, 2, "# @return [Hash(é), A", true⟩, ⟨4, 2, "#   B]", true⟩]

/-- The tag of that comment. -/
def unreadableTag : Tag where
  kind := .returns
  directive := "return"
  lineIndex := 0
  name := none
  key := none
  types := some ⟨"Hash(é), A\n  B", ⟨0, 11, 3, 13⟩, [⟨12, 3, 4, 4⟩]⟩
  misplacedTypes := none
  text := " [Hash(é), A\n  B]"

/-- Both mismatches are told although only the first can be corrected in place,
and the correction of the whole text holds both; an error on the second line is
told without its offset. -/
theorem tagTypes_agrees_typeReport_two_lines :
    Tag.extract mismatchedLines = [mismatchedTag] ∧
      (TypeReport.of "Hash(é), Hash<A,\n  B>" .short).corrected =
        some "(é), \x7bA => B\x7d" ∧
      messagesOf .collectionType (tagTypes .short mismatchedTag) =
        (TypeReport.of "Hash(é), Hash<A,\n  B>" .short).mismatches ∧
      Tag.extract unreadableLines = [unreadableTag] ∧
      (TypeReport.of "Hash(é), A\n  B" .short).error =
        some "expecting END, got name 'B' (offset 14)" ∧
      ∃ span, tagTypes .short unreadableTag =
        [Finding.of .tagTypeSyntax
          "(SyntaxError) expecting END, got name 'B'" span] := by
  have corrected : (TypeReport.of "Hash(é), Hash<A,\n  B>" .short).corrected =
      some "(é), \x7bA => B\x7d" := by
    decide +kernel
  have noError : (TypeReport.of "Hash(é), Hash<A,\n  B>" .short).error =
      none := by
    decide +kernel
  have isError : (TypeReport.of "Hash(é), A\n  B" .short).error =
      some "expecting END, got name 'B' (offset 14)" := by
    decide +kernel
  have mismatched : mismatchedTag.kind.isTyped = true := rfl
  have returned : unreadableTag.kind.isTyped = true := rfl
  have readable := (tagTypes_agrees_typeReport mismatched rfl .short).2
  have unreadable := (tagTypes_agrees_typeReport returned rfl .short).1
  refine ⟨by decide +kernel, corrected, ?_, by decide +kernel, isError, ?_⟩
  · refine (readable ?_).2.1
    intro message offset isError
    exact absurd (noError.symm.trans isError) (by simp)
  · exact unreadable "expecting END, got name 'B'" 14 isError

end Check
end DocLint
