import DocLint.Proofs.CollectionCorrections
import DocLint.Proofs.FindingOrigins
import DocLint.Proofs.GeneratedTags

/-!
# The types of suggested tags

The types that are suggested for a parameter follow from its default value or
from its kind, and collections are always written out in full.  Read back from
the line that is to be inserted, such types break no rule in the long style.  In
the short style, collections are reported for their style, and nothing else is.
-/

namespace DocLint

open Text

/-! ## The rules that a list of types breaks -/

namespace Check

/-- The rules that a list of types breaks. -/
def brokenRules (style : Style) (text : List Char) : List Rule :=
  match TypeExpr.parseAlternatives text with
  | .error _ => [.tagTypeSyntax]
  | .ok alternatives =>
      alternatives.flatMap fun alternative =>
        (complaints style (slice text alternative.start alternative.stop)
          alternative.type).map Prod.fst

theorem map_rule_alternativeFindings
    (types : TagText)
    (style : Style)
    (alternative : Alternative) :
    (alternativeFindings types style alternative).map Finding.rule =
      (complaints style (rawText types alternative) alternative.type).map
        Prod.fst := by
  rw [alternativeFindings_eq, List.map_map]
  rfl

/-- Which rules the types of a tag break depends on their text alone. -/
theorem map_rule_tagTypes
    {tag : Tag}
    {types : TagText}
    (hasTypes : tag.types = some types)
    (isTyped : tag.kind.isTyped = true)
    (style : Style) :
    (tagTypes style tag).map Finding.rule =
      brokenRules style types.text.toList := by
  unfold tagTypes brokenRules
  rw [hasTypes]
  dsimp only
  rw [if_pos isTyped]
  cases TypeExpr.parseAlternatives types.text.toList with
  | error error => rfl
  | ok alternatives =>
      dsimp only
      rw [List.map_flatMap]
      simp only [map_rule_alternativeFindings, rawText]

end Check

/-! ## The types for parameters -/

/-- Whether a parameter is documented as a collection: for its default value, or
because it takes all further arguments. -/
def Parameter.isCollection (parameter : Parameter) : Bool :=
  match parameter.default, parameter.kind with
  | some literal, _ => literal == .array || literal == .hash
  | none, .rest => true
  | none, .keywordRest => true
  | none, _ => false

/-- The rules that the suggested types of a parameter break in a style. -/
def Parameter.brokenRules (style : Style) (parameter : Parameter) : List Rule :=
  if style = .short ∧ parameter.isCollection = true then [.collectionStyle]
  else []

/-- All literals but ranges have types that can be read.  In the short style,
the types for arrays and hashes are reported for their style. -/
theorem Literal.brokenRules_documentedType
    {literal : Literal}
    (notRange : literal ≠ .range)
    (style : Style) :
    Check.brokenRules style literal.documentedType.toList =
      if style = .short ∧ (literal == .array || literal == .hash) = true then
        [.collectionStyle]
      else [] := by
  cases literal with
  | range => exact absurd rfl notRange
  | _ => cases style <;> decide +kernel

theorem Parameter.brokenRules_documentedType
    {parameter : Parameter}
    (notRange : parameter.default ≠ some .range)
    (style : Style) :
    Check.brokenRules style parameter.documentedType.toList =
      parameter.brokenRules style := by
  unfold Parameter.brokenRules isCollection documentedType
  cases hasDefault : parameter.default with
  | some literal =>
      apply Literal.brokenRules_documentedType
      rintro rfl
      exact notRange hasDefault
  | none =>
      cases parameter.kind with
      | rest => exact Literal.brokenRules_documentedType (by decide) style
      | keywordRest =>
          exact Literal.brokenRules_documentedType (by decide) style
      | _ => exact Literal.brokenRules_documentedType (by decide) style

/-! ## The inserted line -/

/-- The comment line that a correction inserts, without the line break. -/
def Correction.insertedLine
    (correction : Correction)
    (line column : Nat) : CommentLine where
  line := line
  column := column
  text := String.ofList correction.replacement.toList.tail
  leading := true

theorem Correction.isGenerated_insertedLine
    {correction : Correction}
    {prototype : Prototype}
    {indent : Nat}
    {name : String}
    {parameter : Parameter}
    (isWord : IsWord name.toList)
    (replacement : correction.replacement =
      Check.suggestion prototype indent name parameter)
    (line column : Nat) :
    (correction.insertedLine line column).IsGenerated prototype name
      parameter.documentedType := by
  apply CommentLine.isGenerated_of_text isWord parameter
    fun _ => isBlank_of_mem_replicate
  rw [insertedLine, String.toList_ofList, replacement,
    Check.toList_suggestion, List.tail_cons]

/-- A generated line alone is a comment with one tag. -/
theorem Tag.exists_extract_of_isGenerated
    {comment : CommentLine}
    {prototype : Prototype}
    {name types : String}
    (isGenerated : comment.IsGenerated prototype name types)
    (leading : comment.leading = true) :
    ∃ tag, extract [comment] = [tag] ∧ tag.Documents name types := by
  obtain ⟨tag, ofLine, documents⟩ :=
    exists_ofLines_of_isGenerated isGenerated 0
  refine ⟨tag, ?_, documents⟩
  simpa [extract, leading] using ofLine

/-- A finding for a parameter comes from the check for parameters. -/
theorem Settings.mem_undocumentedArguments
    {settings : Settings}
    {declaration : Declaration}
    {finding : Finding}
    (member : finding ∈ settings.allFindings declaration)
    (isRule : finding.rule = .undocumentedArgument) :
    finding ∈ Check.undocumentedArguments declaration
      (Tag.extract declaration.comments) settings.prototype := by
  rcases mem_allFindings_cases member with
    ⟨tag, isTag, member⟩ | member | member | member
  · obtain ⟨block, _, rfl⟩ := TagBlock.exists_of_mem_extract isTag
    rcases Check.mem_tagTypes_cases member with
      ⟨_, _, _, _, rfl⟩ | ⟨_, _, _, _, _, _, complaint, complains, rfl⟩
    · exact absurd isRule (fun equal => nomatch equal)
    · have isCollection := Check.isCollection_of_mem_complaints complains
      rw [show complaint.1 = .undocumentedArgument from isRule] at isCollection
      exact absurd isCollection (by decide)
  · obtain ⟨_, _, _, _, _, _, rfl⟩ := Check.exists_of_mem_tagPositions member
    exact absurd isRule (fun equal => nomatch equal)
  · exact Check.mem_undocumentedArguments_of_mem_arguments member isRule
  · obtain ⟨_, _, _, _, _, rfl⟩ := Check.exists_of_mem_meaninglessTags member
    exact absurd isRule (fun equal => nomatch equal)

/-- The tag that is suggested for a parameter breaks no rule about types, unless
the default value of the parameter is a range: only collections are reported,
and only in the short style, for being written out. -/
theorem tagTypes_of_suggestion
    (config : Config)
    (declaration : Declaration)
    (areWords : ∀ name ∈ declaration.parameterNames, IsWord name.toList)
    (finding : Finding)
    (isFinding : finding ∈ (Checker.mk config none).check declaration)
    (isRule : finding.rule = .undocumentedArgument) :
    ∃ correction, finding.correction = some correction ∧
      ∃ parameter ∈ declaration.parameters, ∃ name indent,
        parameter.name = some name ∧
        correction.replacement =
          Check.suggestion config.prototype indent name parameter ∧
        ∀ line column, ∃ tag,
          Tag.extract [correction.insertedLine line column] = [tag] ∧
          (parameter.default ≠ some .range →
            (Check.tagTypes config.style tag).map Finding.rule =
              parameter.brokenRules config.style) := by
  obtain ⟨original, found, _, rfl⟩ := Settings.mem_check.mp isFinding
  obtain ⟨last, _, parameter, isParameter, given⟩ :=
    Check.exists_of_mem_undocumentedArguments
      (Settings.mem_undocumentedArguments found isRule)
  obtain ⟨name, _, _, hasName, _, rfl⟩ :=
    Check.exists_of_undocumentedFinding? given
  have known : name ∈ declaration.parameterNames :=
    List.mem_filterMap.mpr ⟨parameter, isParameter, hasName⟩
  let correction : Correction := ⟨Span.point last.line last.endColumn,
    Check.suggestion config.prototype last.column name parameter⟩
  refine ⟨correction, rfl, parameter, isParameter, name, last.column, hasName,
    rfl, ?_⟩
  intro line column
  have isGenerated : (correction.insertedLine line column).IsGenerated
      config.prototype name parameter.documentedType :=
    Correction.isGenerated_insertedLine (areWords name known) rfl line column
  obtain ⟨tag, extracted, documents⟩ :=
    Tag.exists_extract_of_isGenerated isGenerated rfl
  refine ⟨tag, extracted, fun notRange => ?_⟩
  obtain ⟨types, hasTypes, textEq⟩ := Option.map_eq_some_iff.mp documents.types
  have isTyped : tag.kind.isTyped = true := by
    rw [documents.kind]
    rfl
  rw [Check.map_rule_tagTypes hasTypes isTyped, textEq,
    Parameter.brokenRules_documentedType notRange]

/-! ## Suggestions that are reported -/

/-- A method with three parameters without a tag: one is by default a number,
one takes all further arguments, and one is by default a range. -/
def partlyTagged : Declaration where
  kind := .method
  name := "fetch"
  line := 4
  column := 2
  parameters :=
    [⟨some "key", .required, none⟩, ⟨some "size", .optional, some .integer⟩,
      ⟨some "rest", .rest, none⟩, ⟨some "span", .keyword, some .range⟩]
  comments := [⟨3, 2, "# @param [Symbol] key", true⟩]

/-- The short style, with the name of a parameter in front of its types. -/
def shortStyle : Config where
  style := .short
  prototype := .nameFirst

/-- What is found for the parameter that takes all further arguments. -/
def restFinding : Finding where
  rule := .undocumentedArgument
  message := "This method has argument `rest`, But not documented"
  span := ⟨3, 2, 23⟩
  severity := .warning
  correction := some ⟨⟨3, 23, 23⟩, "\n  # @param rest [Array<Object>]"⟩

theorem partlyTagged_areWords :
    ∀ name ∈ partlyTagged.parameterNames, IsWord name.toList := by
  decide +kernel

theorem restFinding_mem_check :
    restFinding ∈ (Checker.mk shortStyle none).check partlyTagged := by
  decide +kernel

/-- The suggested tag is the one for the parameter, and it is reported for its
style. -/
theorem tagTypes_of_suggestion_rest :
    (∀ name ∈ partlyTagged.parameterNames, IsWord name.toList) ∧
      restFinding ∈ (Checker.mk shortStyle none).check partlyTagged ∧
      restFinding.rule = .undocumentedArgument ∧
      ∃ correction, restFinding.correction = some correction ∧
        ∃ parameter ∈ partlyTagged.parameters, ∃ name indent,
          parameter.name = some name ∧
          correction.replacement =
            Check.suggestion .nameFirst indent name parameter ∧
          ∀ line column, ∃ tag,
            Tag.extract [correction.insertedLine line column] = [tag] ∧
            (parameter.default ≠ some .range →
              (Check.tagTypes .short tag).map Finding.rule =
                parameter.brokenRules .short) :=
  ⟨partlyTagged_areWords, restFinding_mem_check, rfl,
    tagTypes_of_suggestion shortStyle partlyTagged partlyTagged_areWords
      restFinding restFinding_mem_check rfl⟩

/-- Not every suggested tag passes: of the three for this method, the second is
reported for its style, and the types of the third cannot be read. -/
theorem tagTypes_of_suggestion_not_empty :
    (∀ name ∈ partlyTagged.parameterNames, IsWord name.toList) ∧
      (((Checker.mk shortStyle none).check partlyTagged).map fun finding =>
        finding.correction.toList.flatMap fun correction =>
          (Tag.extract [correction.insertedLine 4 0]).flatMap fun tag =>
            (Check.tagTypes .short tag).map Finding.rule) =
        [[], [.collectionStyle], [.tagTypeSyntax]] ∧
      ¬ ∀ finding ∈ (Checker.mk shortStyle none).check partlyTagged,
        finding.rule = .undocumentedArgument →
        ∀ correction, finding.correction = some correction →
        ∀ tag ∈ Tag.extract [correction.insertedLine 4 0],
          Check.tagTypes .short tag = [] := by
  refine ⟨partlyTagged_areWords, by decide +kernel, fun passes => ?_⟩
  have passed := passes restFinding restFinding_mem_check rfl _ rfl
  exact absurd passed (by decide +kernel)

end DocLint
