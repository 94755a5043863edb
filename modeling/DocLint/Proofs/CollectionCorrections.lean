import DocLint.Proofs.CorrectedBlocks
import DocLint.Proofs.FindingOrigins
import Mathlib.Data.List.Dedup

/-!
# The corrections for collections

Findings about collections come from the alternatives of a tag's types that
break an enabled rule.  If all of them carry a correction, then the corrections
of a declaration are exactly those of these alternatives, each on one source
line.
-/

namespace DocLint

open Text

/-- The rules about collections. -/
def Rule.isCollection : Rule → Bool
  | .collectionStyle | .collectionType => true
  | .tagTypeSyntax | .tagTypePosition | .unknownParamName | .incompleteTag
  | .undocumentedArgument | .meaninglessTag => false

/-- The corrections of findings about collections, each of them once. -/
def collectionCorrections (findings : List Finding) : List Correction :=
  ((findings.filter fun finding => finding.rule.isCollection).filterMap
    Finding.correction).dedup

/-- A declaration with all corrections of findings about collections made in its
comment. -/
def Declaration.corrected
    (findings : List Finding)
    (declaration : Declaration) : Declaration :=
  { declaration with
    comments := declaration.comments.map
      (CommentLine.corrected (collectionCorrections findings)) }

/-- The types of a tag cannot be read. -/
def Tag.IsUnreadable (style : Style) (tag : Tag) : Prop :=
  ∃ finding ∈ Check.tagTypes style tag, finding.rule = .tagTypeSyntax

namespace Check

/-! ## The alternatives that are reported -/

/-- Whether an alternative breaks a rule that is enabled. -/
def isReported
    (settings : Settings)
    (types : TagText)
    (alternative : Alternative) : Bool :=
  (complaints settings.style (rawText types alternative)
    alternative.type).any fun complaint => settings.isEnabled complaint.1

/-- What stands in the place of the alternatives that are reported. -/
def renewal (settings : Settings) (types : TagText) : Renewal :=
  fun alternative =>
    if isReported settings types alternative then
      some (alternative.type.correct.chars settings.style,
        alternative.type.correct.inStyle settings.style)
    else none

/-- The correction of an alternative. -/
def correctionOf
    (settings : Settings)
    (types : TagText)
    (alternative : Alternative) : Correction :=
  ⟨alternativeSpan types alternative,
    correctedText settings.style alternative⟩

theorem isSome_renewal
    (settings : Settings)
    (types : TagText)
    (alternative : Alternative) :
    (renewal settings types alternative).isSome =
      isReported settings types alternative := by
  unfold renewal
  cases isReported settings types alternative <;> rfl

/-- A type of the corrected alternatives is written where it stands. -/
theorem isWritten_renewal
    (settings : Settings)
    (types : TagText) :
    (renewal settings types).IsWritten := by
  intro raw old writes
  unfold Renewal.text Renewal.type renewal
  cases isReported settings types old with
  | false => exact writes
  | true => exact writes.corrected settings.style

/-- A complaint is about one of the two rules for collections. -/
theorem isCollection_of_mem_complaints
    {style : Style}
    {raw : List Char}
    {type : TypeExpr}
    {complaint : Rule × String}
    (member : complaint ∈ complaints style raw type) :
    complaint.1.isCollection = true := by
  rcases List.mem_append.mp member with member | member
  · obtain ⟨mismatch, _, rfl⟩ := List.mem_map.mp member
    rfl
  · split at member
    · exact absurd member (by simp)
    · obtain rfl := List.mem_singleton.mp member
      rfl

/-- Nothing is said about a corrected expression in its written form. -/
theorem complaints_corrected
    (style : Style)
    (type : TypeExpr) :
    complaints style (type.correct.chars style) (type.correct.inStyle style) =
      [] := by
  have clean := TypeExpr.mismatches_inStyle style type.correct
    (TypeExpr.mismatches_correct type)
  have same : sameIgnoringBlanks (type.correct.chars style)
      ((type.correct.inStyle style).chars style) = true := by
    rw [TypeExpr.chars_inStyle]
    exact beq_self_eq_true _
  rw [complaints, clean, same]
  rfl

/-! ## The findings about types -/

end Check

/-- The rules for the types of tags. -/
def Rule.isAboutTypes (rule : Rule) : Bool :=
  rule.isCollection || rule == .tagTypeSyntax

namespace Check

theorem isAboutTypes_of_mem_tagPositions
    {comments : List CommentLine}
    {tags : List Tag}
    {finding : Finding}
    (member : finding ∈ tagPositions comments tags) :
    finding.rule.isAboutTypes = false := by
  obtain ⟨_, _, _, _, _, _, rfl⟩ := exists_of_mem_tagPositions member
  rfl

theorem isAboutTypes_of_mem_meaninglessTags
    {declaration : Declaration}
    {tags : List Tag}
    {finding : Finding}
    (member : finding ∈ meaninglessTags declaration tags) :
    finding.rule.isAboutTypes = false := by
  obtain ⟨_, _, _, _, _, rfl⟩ := exists_of_mem_meaninglessTags member
  rfl

theorem isAboutTypes_of_mem_arguments
    {declaration : Declaration}
    {tags : List Tag}
    {prototype : Prototype}
    {finding : Finding}
    (member : finding ∈ arguments declaration tags prototype) :
    finding.rule.isAboutTypes = false := by
  rcases mem_arguments_cases member with member | member
  · obtain ⟨_, _, _, _, _, found⟩ := exists_of_mem_reconciledTags member
    rcases tagFinding?_cases found with
      ⟨_, _, rfl⟩ | ⟨_, _, _, _, _, _, _, _, rfl⟩
    · rfl
    · rfl
  · rw [rule_of_mem_undocumentedArguments member]
    rfl

end Check

namespace Settings

/-- The findings of rules for types come from the types of the tags. -/
theorem filter_check
    (settings : Settings)
    (declaration : Declaration)
    {chosen : Rule → Bool}
    (aboutTypes : ∀ rule, chosen rule = true → rule.isAboutTypes = true) :
    ((settings.check declaration).filter fun finding => chosen finding.rule) =
      (((Tag.extract declaration.comments).flatMap
          (Check.tagTypes settings.style)).filter fun finding =>
            chosen finding.rule && settings.isEnabled finding.rule).map
        fun finding =>
          { finding with severity := settings.severity finding.rule } := by
  have others (findings : List Finding)
      (notAbout : ∀ finding ∈ findings, finding.rule.isAboutTypes = false) :
      (findings.filter fun finding =>
        chosen finding.rule && settings.isEnabled finding.rule) = [] := by
    apply List.filter_eq_nil_iff.mpr
    intro finding member both
    rw [Bool.and_eq_true] at both
    have about := aboutTypes finding.rule both.1
    rw [notAbout finding member] at about
    exact absurd about (by simp)
  have kept (findings : List Finding) :
      (findings.filter ((fun finding => chosen finding.rule) ∘
        fun finding : Finding =>
          { finding with severity := settings.severity finding.rule })) =
      findings.filter fun finding => chosen finding.rule := rfl
  rw [check, List.filter_map, kept, List.filter_filter, allFindings]
  congr 1
  have positions := others
    (Check.tagPositions declaration.comments (Tag.extract declaration.comments))
    fun finding member => Check.isAboutTypes_of_mem_tagPositions member
  rw [List.filter_append, List.filter_append, positions, List.append_nil]
  apply List.append_right_eq_self.mpr
  apply others
  intro finding member
  split at member
  · exact Check.isAboutTypes_of_mem_arguments member
  · exact Check.isAboutTypes_of_mem_meaninglessTags member

end Settings

namespace Check

/-- An alternative of a tag's types that breaks an enabled rule. -/
structure ReportedIn
    (settings : Settings)
    (block : TagBlock)
    (types : TagText)
    (alternatives : List Alternative)
    (alternative : Alternative) : Prop where
  hasTypes : block.tag.types = some types
  parsed : TypeExpr.parseAlternatives types.text.toList = .ok alternatives
  member : alternative ∈ alternatives
  reported : isReported settings types alternative = true

/-- A finding for the types of a tag is that they cannot be read, or is about
one of their alternatives. -/
theorem mem_tagTypes_cases
    {style : Style}
    {block : TagBlock}
    {finding : Finding}
    (member : finding ∈ tagTypes style block.tag) :
    (∃ types error, block.tag.types = some types ∧
      TypeExpr.parseAlternatives types.text.toList = .error error ∧
      finding = syntaxFinding types error) ∨
    (∃ types alternatives alternative,
      block.tag.types = some types ∧
      TypeExpr.parseAlternatives types.text.toList = .ok alternatives ∧
      alternative ∈ alternatives ∧
      ∃ complaint ∈ complaints style (rawText types alternative)
          alternative.type,
        finding =
          reported types style alternative complaint.1 complaint.2) := by
  cases hasTypes : block.tag.types with
  | none =>
      rw [tagTypes, hasTypes] at member
      exact absurd member (by simp)
  | some types =>
      cases parsed : TypeExpr.parseAlternatives types.text.toList with
      | error error =>
          have isTyped : block.tag.kind.isTyped = true :=
            Tag.isTyped_of_types hasTypes
          simp only [tagTypes, hasTypes, isTyped, if_true, parsed] at member
          exact Or.inl ⟨types, error, rfl, parsed,
            List.mem_singleton.mp member⟩
      | ok alternatives =>
          rw [tagTypes_of_parsed hasTypes parsed] at member
          obtain ⟨alternative, isAlternative, found⟩ :=
            List.mem_flatMap.mp member
          rw [alternativeFindings_eq] at found
          obtain ⟨complaint, complains, rfl⟩ := List.mem_map.mp found
          exact Or.inr ⟨types, alternatives, alternative, rfl, parsed,
            isAlternative, complaint, complains, rfl⟩

/-- The findings about collections in the types of a tag are about its
alternatives. -/
theorem exists_of_mem_tagTypes
    {style : Style}
    {block : TagBlock}
    {finding : Finding}
    (member : finding ∈ tagTypes style block.tag)
    (isCollection : finding.rule.isCollection = true) :
    ∃ types alternatives alternative,
      block.tag.types = some types ∧
      TypeExpr.parseAlternatives types.text.toList = .ok alternatives ∧
      alternative ∈ alternatives ∧
      ∃ complaint ∈ complaints style (rawText types alternative)
          alternative.type,
        finding = reported types style alternative complaint.1 complaint.2 := by
  rcases mem_tagTypes_cases member with ⟨types, error, _, _, rfl⟩ | found
  · exact absurd isCollection
      (by simp [syntaxFinding, Finding.of, Rule.isCollection])
  · exact found

end Check

/-! ## The corrections of a declaration -/

section Corrections

variable {settings : Settings}
variable {declaration : Declaration}

/-- All findings about collections have a correction. -/
def Settings.CanCorrect
    (settings : Settings)
    (declaration : Declaration) : Prop :=
  ∀ finding ∈ settings.check declaration,
    finding.rule.isCollection = true → finding.correction.isSome = true

theorem isAboutTypes_of_isCollection
    (rule : Rule)
    (isCollection : rule.isCollection = true) :
    rule.isAboutTypes = true := by
  rw [Rule.isAboutTypes, isCollection, Bool.true_or]

/-- The findings about collections are those for the alternatives of tags. -/
theorem mem_check_iff
    {finding : Finding} :
    finding ∈ (settings.check declaration).filter
        (fun finding => finding.rule.isCollection) ↔
      ∃ block ∈ TagBlock.ofComments declaration.comments,
      ∃ original ∈ Check.tagTypes settings.style block.tag,
        original.rule.isCollection = true ∧
        settings.isEnabled original.rule = true ∧
        finding =
          { original with severity := settings.severity original.rule } := by
  rw [settings.filter_check declaration isAboutTypes_of_isCollection,
    ← TagBlock.map_tag_ofComments, List.mem_map]
  constructor
  · rintro ⟨original, member, rfl⟩
    obtain ⟨inTags, chosen⟩ := List.mem_filter.mp member
    rw [Bool.and_eq_true] at chosen
    obtain ⟨tag, isTag, found⟩ := List.mem_flatMap.mp inTags
    obtain ⟨block, isBlock, rfl⟩ := List.mem_map.mp isTag
    exact ⟨block, isBlock, original, found, chosen.1, chosen.2, rfl⟩
  · rintro ⟨block, isBlock, original, found, isCollection, isEnabled, rfl⟩
    refine ⟨original, List.mem_filter.mpr ⟨?_, ?_⟩, rfl⟩
    · exact List.mem_flatMap.mpr
        ⟨block.tag, List.mem_map_of_mem isBlock, found⟩
    · rw [isCollection, isEnabled]
      rfl

/-- A reported alternative has a finding. -/
theorem exists_finding_of_reportedIn
    {block : TagBlock}
    (isBlock : block ∈ TagBlock.ofComments declaration.comments)
    {types : TagText}
    {alternatives : List Alternative}
    {alternative : Alternative}
    (reportedIn : Check.ReportedIn settings block types alternatives
      alternative) :
    ∃ finding ∈ (settings.check declaration).filter
        (fun finding => finding.rule.isCollection),
      finding.correction =
        if (types.locate? alternative.start alternative.stop).isSome then
          some (Check.correctionOf settings types alternative)
        else none := by
  obtain ⟨hasTypes, parsed, member, reported⟩ := reportedIn
  obtain ⟨complaint, complains, isEnabled⟩ := List.any_eq_true.mp reported
  refine ⟨_, mem_check_iff.mpr ⟨block, isBlock,
    Check.reported types settings.style alternative complaint.1 complaint.2, ?_,
    Check.isCollection_of_mem_complaints complains, isEnabled, rfl⟩, rfl⟩
  rw [Check.tagTypes_of_parsed hasTypes parsed]
  apply List.mem_flatMap.mpr
  refine ⟨alternative, member, ?_⟩
  rw [Check.alternativeFindings_eq]
  exact List.mem_map_of_mem complains

/-- A reported alternative stands on one line. -/
theorem located_of_reportedIn
    (canCorrect : settings.CanCorrect declaration)
    {block : TagBlock}
    (isBlock : block ∈ TagBlock.ofComments declaration.comments)
    {types : TagText}
    {alternatives : List Alternative}
    {alternative : Alternative}
    (reportedIn : Check.ReportedIn settings block types alternatives
      alternative) :
    (types.locate? alternative.start alternative.stop).isSome = true := by
  obtain ⟨finding, found, correction⟩ :=
    exists_finding_of_reportedIn isBlock reportedIn
  obtain ⟨inCheck, isCollection⟩ := List.mem_filter.mp found
  have isSome := canCorrect finding inCheck isCollection
  rw [correction] at isSome
  by_contra notLocated
  rw [if_neg notLocated] at isSome
  exact absurd isSome (by simp)

/-- The corrections are those of the reported alternatives. -/
theorem mem_corrections_iff
    (canCorrect : settings.CanCorrect declaration)
    {correction : Correction} :
    correction ∈ collectionCorrections (settings.check declaration) ↔
      ∃ block ∈ TagBlock.ofComments declaration.comments,
      ∃ types alternatives alternative,
        Check.ReportedIn settings block types alternatives alternative ∧
        correction = Check.correctionOf settings types alternative := by
  rw [collectionCorrections, List.mem_dedup, List.mem_filterMap]
  constructor
  · rintro ⟨finding, found, given⟩
    obtain ⟨block, isBlock, original, inTypes, isCollection, isEnabled, rfl⟩ :=
      mem_check_iff.mp found
    obtain ⟨types, alternatives, alternative, hasTypes, parsed, member, complaint,
      complains, rfl⟩ := Check.exists_of_mem_tagTypes inTypes isCollection
    have reportedIn : Check.ReportedIn settings block types alternatives
        alternative :=
      ⟨hasTypes, parsed, member,
        List.any_eq_true.mpr ⟨complaint, complains, isEnabled⟩⟩
    have located := located_of_reportedIn canCorrect isBlock reportedIn
    refine ⟨block, isBlock, types, alternatives, alternative, reportedIn, ?_⟩
    have correctionEq := Check.correction_reported_of_located located
      settings.style complaint.1 complaint.2
    exact Option.some.inj (given.symm.trans correctionEq)
  · rintro ⟨block, isBlock, types, alternatives, alternative, reportedIn, rfl⟩
    obtain ⟨finding, found, correction⟩ :=
      exists_finding_of_reportedIn isBlock reportedIn
    rw [if_pos (located_of_reportedIn canCorrect isBlock reportedIn)] at correction
    exact ⟨finding, found, correction⟩

end Corrections

end DocLint
