import DocLint.Proofs.CollectionCorrections
import DocLint.Proofs.FindingOrigins
import DocLint.Proofs.TagPlaces
import Mathlib.Data.List.Perm.Basic

/-!
# Tags for parameters

Three checks look at each tag that documents a parameter: for its types, for the
position of its types, and for its name.  Each of them passes over what another
one reports.  Together they miss nothing: a tag is reported exactly if something
is wrong with it, and what is reported does not contradict itself.
-/

namespace DocLint

/-! ## What is found for one tag -/

/-- The rules that a tag for a parameter can break, its collections apart. -/
def Rule.isAboutParameterTag : Rule → Bool
  | .tagTypePosition | .incompleteTag | .unknownParamName
  | .tagTypeSyntax => true
  | .collectionStyle | .collectionType | .undocumentedArgument
  | .meaninglessTag => false

theorem Rule.isAboutParameterTag_eq_false
    {rule : Rule}
    (isCollection : rule.isCollection = true) :
    rule.isAboutParameterTag = false := by
  cases rule with
  | collectionStyle => rfl
  | collectionType => rfl
  | _ => exact absurd isCollection (by decide)

/-- What is wrong with a tag that documents one of the named parameters: its
types stand in the wrong place, it has no name or no types, its types cannot be
read, or its name is none of the names. -/
def Tag.IsFaulty (names : List String) (tag : Tag) : Prop :=
  tag.misplacedTypes.isSome = true ∨ tag.name = none ∨ tag.types = none ∨
    (∃ types error, tag.types = some types ∧
      TypeExpr.parse types.text.toList = .error error) ∨
    (∃ name, tag.name = some name ∧ name.text ∉ names)

namespace Check

/-- All findings for one tag of a method. -/
def ofTag
    (style : Style)
    (declaration : Declaration)
    (tag : Tag) : List Finding :=
  tagTypes style tag ++ tagPositions declaration.comments [tag] ++
    reconciledTags declaration [tag]

end Check

/-! ## The findings of a method are those of its tags and parameters -/

namespace Check

theorem tagPositions_eq_flatMap
    (comments : List CommentLine)
    (tags : List Tag) :
    tagPositions comments tags =
      tags.flatMap fun tag => tagPositions comments [tag] := by
  induction tags with
  | nil => rfl
  | cons tag rest hypothesis =>
      rw [List.flatMap_cons, ← hypothesis, ← tagPositions_append,
        List.singleton_append]

theorem reconciledTags_eq_flatMap
    (declaration : Declaration)
    (tags : List Tag) :
    reconciledTags declaration tags =
      tags.flatMap fun tag => reconciledTags declaration [tag] := by
  induction tags with
  | nil => rfl
  | cons tag rest hypothesis =>
      rw [List.flatMap_cons, ← hypothesis, ← reconciledTags_append,
        List.singleton_append]

end Check

namespace Settings

theorem isEnabled_default (rule : Rule) :
    (resolve {}).isEnabled rule = true := by
  cases rule <;> rfl

theorem severity_default (rule : Rule) :
    (resolve {}).severity rule = rule.defaultSeverity := by
  cases rule <;> rfl

/-- Before anything is configured, a finding is as severe as its rule. -/
theorem severity_of_mem_allFindings
    {settings : Settings}
    {declaration : Declaration}
    {finding : Finding}
    (member : finding ∈ settings.allFindings declaration) :
    finding.severity = finding.rule.defaultSeverity := by
  rcases mem_allFindings_cases member with
    ⟨tag, isTag, member⟩ | member | member | member
  · obtain ⟨block, _, rfl⟩ := TagBlock.exists_of_mem_extract isTag
    rcases Check.mem_tagTypes_cases member with
      ⟨_, _, _, _, rfl⟩ | ⟨_, _, _, _, _, _, _, _, rfl⟩
    · rfl
    · rfl
  · obtain ⟨_, _, _, _, _, _, rfl⟩ := Check.exists_of_mem_tagPositions member
    rfl
  · rcases Check.mem_arguments_cases member with member | member
    · obtain ⟨_, _, _, _, _, found⟩ := Check.exists_of_mem_reconciledTags member
      rcases Check.tagFinding?_cases found with
        ⟨_, _, rfl⟩ | ⟨_, _, _, _, _, _, _, _, rfl⟩
      · rfl
      · rfl
    · obtain ⟨_, _, _, _, found⟩ :=
        Check.exists_of_mem_undocumentedArguments member
      obtain ⟨_, _, _, _, _, rfl⟩ := Check.exists_of_undocumentedFinding? found
      rfl
  · obtain ⟨_, _, _, _, _, rfl⟩ := Check.exists_of_mem_meaninglessTags member
    rfl

/-- Nothing is dropped or changed by the default configuration. -/
theorem check_default (declaration : Declaration) :
    (resolve {}).check declaration =
      (resolve {}).allFindings declaration := by
  unfold check
  rw [List.filter_eq_self.mpr fun finding _ => isEnabled_default finding.rule]
  calc _ = ((resolve {}).allFindings declaration).map id := by
        apply List.map_congr_left
        intro finding member
        rw [severity_default, ← severity_of_mem_allFindings member]
        rfl
    _ = _ := List.map_id _

end Settings

/-- The findings for a method are those for its tags, one by one, and those for
its parameters. -/
theorem Check.perm_check_default
    {declaration : Declaration}
    (isMethod : declaration.kind = .method)
    (hasParameters : declaration.parameters ≠ [])
    (noOverload : ∀ tag ∈ Tag.extract declaration.comments,
      tag.kind ≠ .overload) :
    List.Perm ((Checker.mk {} none).check declaration)
      ((Tag.extract declaration.comments).flatMap
          (ofTag .long declaration) ++
        undocumentedArguments declaration
          (Tag.extract declaration.comments) .typeFirst) := by
  have whole : (Checker.mk {} none).check declaration =
      (Tag.extract declaration.comments).flatMap (tagTypes .long) ++
        tagPositions declaration.comments
          (Tag.extract declaration.comments) ++
        arguments declaration (Tag.extract declaration.comments)
          .typeFirst := by
    have all := Settings.check_default declaration
    rw [Settings.allFindings, isMethod] at all
    exact all
  rw [whole, arguments_eq_append isMethod hasParameters noOverload,
    ← List.append_assoc]
  apply List.Perm.append_right
  rw [tagPositions_eq_flatMap, reconciledTags_eq_flatMap]
  exact ((List.flatMap_append_perm _ _ _).append_right _).trans
    (List.flatMap_append_perm _ _ _)

/-! ## What each check says about a tag -/

namespace TagFields

/-- Types stand in their place or elsewhere, never both. -/
def HasTypesOnce (fields : TagFields) : Prop :=
  fields.types = none ∨ fields.misplacedTypes = none

theorem hasTypesOnce_typesAndName
    (body : Body)
    (before rest : List Char) :
    (typesAndName body before rest).HasTypesOnce := by
  unfold typesAndName
  dsimp only
  split
  · exact Or.inr rfl
  · exact Or.inl rfl

theorem hasTypesOnce_option (body : Body) : (option body).HasTypesOnce := by
  unfold option
  split
  · exact Or.inl rfl
  · split
    · exact Or.inl rfl
    · exact hasTypesOnce_typesAndName body _ _

theorem hasTypesOnce_typesOnly (body : Body) :
    (typesOnly body).HasTypesOnce := by
  unfold typesOnly
  split
  · exact Or.inr rfl
  · exact Or.inl rfl

end TagFields

namespace Tag

theorem hasTypesOnce_ofBody
    (index : Nat)
    (directive : String)
    (body : Body) :
    (ofBody index directive body).fields.HasTypesOnce := by
  unfold ofBody
  split
  · exact Or.inl rfl
  · dsimp only [fields]
    generalize TagKind.ofDirective directive = kind
    cases kind with
    | param => exact TagFields.hasTypesOnce_typesAndName body _ _
    | yieldParam => exact TagFields.hasTypesOnce_typesAndName body _ _
    | option => exact TagFields.hasTypesOnce_option body
    | returns => exact TagFields.hasTypesOnce_typesOnly body
    | raise => exact TagFields.hasTypesOnce_typesOnly body
    | yieldReturn => exact TagFields.hasTypesOnce_typesOnly body
    | reference => exact Or.inl rfl
    | overload => exact Or.inl rfl
    | other => exact Or.inl rfl

variable {comments : List CommentLine}
variable {tag : Tag}

/-- A tag has no types where they should be if it has some elsewhere. -/
theorem types_eq_none_of_misplacedTypes
    (isTag : tag ∈ extract comments)
    (misplaced : tag.misplacedTypes.isSome = true) :
    tag.types = none := by
  obtain ⟨block, _, rfl⟩ := TagBlock.exists_of_mem_extract isTag
  have once : block.tag.fields.HasTypesOnce := hasTypesOnce_ofBody _ _ _
  rcases once with noTypes | notMisplaced
  · exact noTypes
  · rw [show block.tag.misplacedTypes = none from notMisplaced] at misplaced
    exact absurd misplaced (by simp)

/-- The types of a tag are reported as unreadable exactly if they cannot be
read. -/
theorem isUnreadable_iff
    (isTag : tag ∈ extract comments)
    {style : Style} :
    tag.IsUnreadable style ↔
      ∃ types error, tag.types = some types ∧
        TypeExpr.parse types.text.toList = .error error := by
  obtain ⟨block, _, rfl⟩ := TagBlock.exists_of_mem_extract isTag
  constructor
  · rintro ⟨finding, member, isSyntax⟩
    rcases Check.mem_tagTypes_cases member with
      ⟨types, error, hasTypes, parsed, _⟩ |
      ⟨_, _, _, _, _, _, complaint, complains, rfl⟩
    · exact ⟨types, error, hasTypes, TypeExpr.parse_eq_error_iff.mpr parsed⟩
    · have isCollection := Check.isCollection_of_mem_complaints complains
      rw [show complaint.1 = .tagTypeSyntax from isSyntax] at isCollection
      exact absurd isCollection (by decide)
  · rintro ⟨types, error, hasTypes, parsed⟩
    have isTyped : block.tag.kind.isTyped = true :=
      Tag.isTyped_of_types hasTypes
    refine ⟨Check.syntaxFinding types error, ?_, rfl⟩
    simp only [Check.tagTypes, hasTypes, isTyped, if_true,
      TypeExpr.parse_eq_error_iff.mp parsed, List.mem_singleton]

end Tag

namespace Check

variable {declaration : Declaration}
variable {tag : Tag}
variable {comment : CommentLine}

theorem exists_mem_tagPositions
    (misplaced : tag.misplacedTypes.isSome = true)
    (isComment : declaration.comments[tag.lineIndex]? = some comment) :
    ∃ finding ∈ tagPositions declaration.comments [tag],
      finding.rule = .tagTypePosition := by
  obtain ⟨text, isMisplaced⟩ := Option.isSome_iff_exists.mp misplaced
  simp [tagPositions, isMisplaced, isComment, Finding.of]

/-- A tag is set against the parameters unless its types are misplaced. -/
theorem reconciledTags_singleton
    (documents : tag.documentsParameter = true)
    (notReference : tag.kind ≠ .reference)
    (isComment : declaration.comments[tag.lineIndex]? = some comment) :
    reconciledTags declaration [tag] =
      if tag.misplacedTypes.isSome then []
      else (tagFinding? declaration.parameterNames comment tag).toList := by
  have reconciled : isReconciled tag = tag.misplacedTypes.isNone := by
    simp [isReconciled, documents, notReference]
  cases misplaced : tag.misplacedTypes with
  | some text =>
      rw [misplaced] at reconciled
      simp [reconciledTags, reconciled]
  | none =>
      rw [misplaced] at reconciled
      cases found : tagFinding? declaration.parameterNames comment tag with
      | none => simp [reconciledTags, reconciled, isComment, found]
      | some finding => simp [reconciledTags, reconciled, isComment, found]

/-- A tag passes if its name is one of the names, or if its types are reported
elsewhere. -/
theorem exists_of_tagFinding?_eq_none
    {names : List String}
    (passes : tagFinding? names comment tag = none) :
    ∃ name types, tag.name = some name ∧ tag.types = some types ∧
      (name.text ∈ names ∨
        ∃ error, TypeExpr.parse types.text.toList = .error error) := by
  unfold tagFinding? at passes
  split at passes
  · exact absurd passes (by simp)
  · exact absurd passes (by simp)
  · rename_i name types hasName hasTypes
    refine ⟨name, types, hasName, hasTypes, ?_⟩
    split at passes
    · rename_i known
      exact Or.inl (by simpa using known)
    · split at passes
      · rename_i error unreadable
        exact Or.inr ⟨error, unreadable⟩
      · exact absurd passes (by simp)

/-- A finding for a tag comes from one of the three checks. -/
theorem mem_ofTag_cases
    {style : Style}
    {finding : Finding}
    (member : finding ∈ ofTag style declaration tag) :
    finding ∈ tagTypes style tag ∨
      finding ∈ tagPositions declaration.comments [tag] ∨
      finding ∈ reconciledTags declaration [tag] := by
  rcases List.mem_append.mp member with member | member
  · rcases List.mem_append.mp member with member | member
    · exact Or.inl member
    · exact Or.inr (Or.inl member)
  · exact Or.inr (Or.inr member)

/-- The ways in which a tag breaks the rules for parameters. -/
theorem rule_of_mem_ofTag
    (isTag : tag ∈ Tag.extract declaration.comments)
    {style : Style}
    {finding : Finding}
    (member : finding ∈ ofTag style declaration tag)
    (isAbout : finding.rule.isAboutParameterTag = true) :
    (finding.rule = .tagTypeSyntax ∧ tag.IsUnreadable style) ∨
    (finding.rule = .tagTypePosition ∧ tag.misplacedTypes.isSome = true) ∨
    (finding.rule = .incompleteTag ∧ tag.misplacedTypes = none ∧
      (tag.name = none ∨ tag.types = none)) ∨
    (finding.rule = .unknownParamName ∧ tag.misplacedTypes = none ∧
      ∃ name types read, tag.name = some name ∧ tag.types = some types ∧
        name.text ∉ declaration.parameterNames ∧
        TypeExpr.parse types.text.toList = .ok read) := by
  rcases mem_ofTag_cases member with member | member | member
  · have unreadable (isSyntax : finding.rule = .tagTypeSyntax) :
        tag.IsUnreadable style := ⟨finding, member, isSyntax⟩
    obtain ⟨block, _, rfl⟩ := TagBlock.exists_of_mem_extract isTag
    rcases mem_tagTypes_cases member with
      ⟨_, _, _, _, rfl⟩ | ⟨_, _, _, _, _, _, complaint, complains, rfl⟩
    · exact Or.inl ⟨rfl, unreadable rfl⟩
    · have excluded := Rule.isAboutParameterTag_eq_false
        (isCollection_of_mem_complaints complains)
      exact absurd (excluded.symm.trans isAbout) (by simp)
  · obtain ⟨found, isFound, _, _, misplaced, _, rfl⟩ :=
      exists_of_mem_tagPositions member
    obtain rfl := List.mem_singleton.mp isFound
    exact Or.inr (Or.inl ⟨rfl, misplaced⟩)
  · obtain ⟨found, isFound, _, reconciled, _, given⟩ :=
      exists_of_mem_reconciledTags member
    obtain rfl := List.mem_singleton.mp isFound
    have inPlace : found.misplacedTypes = none := by
      simp only [isReconciled, Bool.and_eq_true] at reconciled
      exact Option.isNone_iff_eq_none.mp reconciled.2
    rcases tagFinding?_cases given with
      ⟨_, incomplete, rfl⟩ |
      ⟨name, types, read, _, hasName, hasTypes, unknown, parsed, rfl⟩
    · exact Or.inr (Or.inr (Or.inl ⟨rfl, inPlace, incomplete⟩))
    · exact Or.inr (Or.inr (Or.inr ⟨rfl, inPlace, name, types, read, hasName,
        hasTypes, unknown, parsed⟩))

/-- An unknown name is reported only for a tag whose types can be read. -/
theorem exists_parse_of_unknownParamName
    (isTag : tag ∈ Tag.extract declaration.comments)
    {style : Style}
    {finding : Finding}
    (member : finding ∈ ofTag style declaration tag)
    (isUnknown : finding.rule = .unknownParamName) :
    ∃ types read, tag.types = some types ∧
      TypeExpr.parse types.text.toList = .ok read := by
  have isAbout : finding.rule.isAboutParameterTag = true := by
    rw [isUnknown]
    rfl
  rcases rule_of_mem_ofTag isTag member isAbout with
    ⟨rule, _⟩ | ⟨rule, _⟩ | ⟨rule, _⟩ |
    ⟨_, _, _, types, read, _, hasTypes, _, parsed⟩
  · exact absurd (rule.symm.trans isUnknown) (by decide)
  · exact absurd (rule.symm.trans isUnknown) (by decide)
  · exact absurd (rule.symm.trans isUnknown) (by decide)
  · exact ⟨types, read, hasTypes, parsed⟩

theorem isUnreadable_of_tagTypeSyntax
    (isTag : tag ∈ Tag.extract declaration.comments)
    {style : Style}
    {finding : Finding}
    (member : finding ∈ ofTag style declaration tag)
    (isSyntax : finding.rule = .tagTypeSyntax) :
    tag.IsUnreadable style := by
  have isAbout : finding.rule.isAboutParameterTag = true := by
    rw [isSyntax]
    rfl
  rcases rule_of_mem_ofTag isTag member isAbout with
    ⟨_, unreadable⟩ | ⟨rule, _⟩ | ⟨rule, _⟩ | ⟨rule, _⟩
  · exact unreadable
  · exact absurd (rule.symm.trans isSyntax) (by decide)
  · exact absurd (rule.symm.trans isSyntax) (by decide)
  · exact absurd (rule.symm.trans isSyntax) (by decide)

/-- Nothing that is wrong with a tag is passed over. -/
theorem exists_mem_ofTag
    (isTag : tag ∈ Tag.extract declaration.comments)
    (documents : tag.documentsParameter = true)
    (notReference : tag.kind ≠ .reference)
    (faulty : tag.IsFaulty declaration.parameterNames)
    (style : Style) :
    ∃ finding ∈ ofTag style declaration tag,
      finding.rule.isAboutParameterTag = true := by
  obtain ⟨comment, _, isComment, _⟩ := Tag.exists_comment isTag
  by_cases misplaced : tag.misplacedTypes.isSome = true
  · obtain ⟨finding, member, isPosition⟩ :=
      exists_mem_tagPositions misplaced isComment
    refine ⟨finding, ?_, by rw [isPosition]; rfl⟩
    exact List.mem_append_left _ (List.mem_append_right _ member)
  · have reconciled :=
      reconciledTags_singleton documents notReference isComment
    rw [if_neg misplaced] at reconciled
    cases found : tagFinding? declaration.parameterNames comment tag with
    | some finding =>
        refine ⟨finding, ?_, ?_⟩
        · apply List.mem_append_right
          rw [reconciled, found]
          exact List.mem_singleton.mpr rfl
        · rcases tagFinding?_cases found with
            ⟨_, _, rfl⟩ | ⟨_, _, _, _, _, _, _, _, rfl⟩
          · rfl
          · rfl
    | none =>
        -- Only types that cannot be read are left to be wrong.
        obtain ⟨name, types, hasName, hasTypes, passes⟩ :=
          exists_of_tagFinding?_eq_none found
        have unreadable : ∃ types error, tag.types = some types ∧
            TypeExpr.parse types.text.toList = .error error := by
          rcases passes with known | ⟨error, parsed⟩
          · rcases faulty with wrong | wrong | wrong | wrong | wrong
            · exact absurd wrong misplaced
            · exact absurd (hasName.symm.trans wrong) (by simp)
            · exact absurd (hasTypes.symm.trans wrong) (by simp)
            · exact wrong
            · obtain ⟨other, hasOther, unknown⟩ := wrong
              obtain rfl : name = other :=
                Option.some.inj (hasName.symm.trans hasOther)
              exact absurd known unknown
          · exact ⟨types, error, hasTypes, parsed⟩
        have isUnreadable : tag.IsUnreadable style :=
          (Tag.isUnreadable_iff isTag).mpr unreadable
        obtain ⟨finding, member, isSyntax⟩ := isUnreadable
        refine ⟨finding, ?_, by rw [isSyntax]; rfl⟩
        exact List.mem_append_left _ (List.mem_append_left _ member)

end Check

/-- The findings for a method with parameters and without overloads are those
for its tags and those for its parameters.  A tag that documents a parameter,
and is no reference, is reported exactly if something is wrong with it.  If its
types stand in the wrong place, then this alone is reported, and an unknown name
is never reported together with types that cannot be read. -/
theorem parameterTag_reported_iff_isFaulty
    (declaration : Declaration)
    (isMethod : declaration.kind = .method)
    (hasParameters : declaration.parameters ≠ [])
    (noOverload : ∀ tag ∈ Tag.extract declaration.comments,
      tag.kind ≠ .overload) :
    List.Perm ((Checker.mk {} none).check declaration)
      ((Tag.extract declaration.comments).flatMap
          (Check.ofTag .long declaration) ++
        Check.undocumentedArguments declaration
          (Tag.extract declaration.comments) .typeFirst) ∧
    ∀ tag ∈ Tag.extract declaration.comments,
      tag.documentsParameter = true → tag.kind ≠ .reference →
      ((∃ finding ∈ Check.ofTag .long declaration tag,
          finding.rule.isAboutParameterTag = true) ↔
        tag.IsFaulty declaration.parameterNames) ∧
      (tag.misplacedTypes.isSome = true →
        ∀ finding ∈ Check.ofTag .long declaration tag,
          finding.rule.isAboutParameterTag = true →
          finding.rule = .tagTypePosition) ∧
      ¬ ((∃ finding ∈ Check.ofTag .long declaration tag,
          finding.rule = .unknownParamName) ∧
        ∃ finding ∈ Check.ofTag .long declaration tag,
          finding.rule = .tagTypeSyntax) := by
  refine ⟨Check.perm_check_default isMethod hasParameters noOverload, ?_⟩
  intro tag isTag documents notReference
  refine ⟨⟨?_, ?_⟩, ?_, ?_⟩
  · rintro ⟨finding, member, isAbout⟩
    rcases Check.rule_of_mem_ofTag isTag member isAbout with
      ⟨_, unreadable⟩ | ⟨_, misplaced⟩ | ⟨_, _, noName | noTypes⟩ |
      ⟨_, _, name, _, _, hasName, _, unknown, _⟩
    · exact Or.inr (Or.inr (Or.inr (Or.inl
        ((Tag.isUnreadable_iff isTag).mp unreadable))))
    · exact Or.inl misplaced
    · exact Or.inr (Or.inl noName)
    · exact Or.inr (Or.inr (Or.inl noTypes))
    · exact Or.inr (Or.inr (Or.inr (Or.inr ⟨name, hasName, unknown⟩)))
  · intro faulty
    exact Check.exists_mem_ofTag isTag documents notReference faulty .long
  · intro misplaced finding member isAbout
    have noTypes := Tag.types_eq_none_of_misplacedTypes isTag misplaced
    rcases Check.rule_of_mem_ofTag isTag member isAbout with
      ⟨_, unreadable⟩ | ⟨isPosition, _⟩ | ⟨_, inPlace, _⟩ | ⟨_, inPlace, _⟩
    · obtain ⟨types, _, hasTypes, _⟩ :=
        (Tag.isUnreadable_iff isTag).mp unreadable
      exact absurd (noTypes.symm.trans hasTypes) (by simp)
    · exact isPosition
    · exact absurd misplaced (by simp [inPlace])
    · exact absurd misplaced (by simp [inPlace])
  · rintro ⟨⟨unknown, isUnknown, unknownRule⟩, ⟨other, isOther, otherRule⟩⟩
    obtain ⟨types, read, hasTypes, parsed⟩ :=
      Check.exists_parse_of_unknownParamName isTag isUnknown unknownRule
    obtain ⟨same, error, hasSame, failed⟩ := (Tag.isUnreadable_iff isTag).mp
      (Check.isUnreadable_of_tagTypeSyntax isTag isOther otherRule)
    obtain rfl : types = same := Option.some.inj (hasTypes.symm.trans hasSame)
    exact absurd (parsed.symm.trans failed) (by simp)

/-! ## Tags with faults of every kind -/

/-- A method with tags that are wrong in different ways, one of them in two. -/
def faultyTags : Declaration where
  kind := .method
  name := "fetch"
  line := 9
  column := 0
  parameters := [⟨some "key", .required, none⟩, ⟨some "é", .rest, none⟩]
  comments :=
    [⟨3, 0, "# @param [Array<A>] key", true⟩,
      ⟨4, 0, "# @param key the [Symbol]", true⟩,
      ⟨5, 0, "# @param [Symbol]", true⟩,
      ⟨6, 0, "# @param é", true⟩,
      ⟨7, 0, "# @option keys [Array<] :deep", true⟩,
      ⟨8, 0, "# @option keys [Symbol] :deep", true⟩]

/-- The tag whose name is unknown and whose types cannot be read. -/
def twiceFaultyTag : Tag where
  kind := .option
  directive := "option"
  lineIndex := 4
  name := some ⟨"keys", ⟨0, 4, 7, 10⟩, []⟩
  key := some ⟨":deep", ⟨0, 5, 7, 24⟩, []⟩
  types := some ⟨"Array<", ⟨0, 6, 7, 16⟩, []⟩
  misplacedTypes := none
  text := " keys [Array<] :deep"

/-- The first tag is in order, and each of the others is reported once; the one
with two faults is reported for its types. -/
theorem parameterTag_reported_iff_isFaulty_every_kind :
    faultyTags.kind = .method ∧ faultyTags.parameters ≠ [] ∧
      (∀ tag ∈ Tag.extract faultyTags.comments, tag.kind ≠ .overload) ∧
      twiceFaultyTag ∈ Tag.extract faultyTags.comments ∧
      twiceFaultyTag.documentsParameter = true ∧
      twiceFaultyTag.kind ≠ .reference ∧
      ((Tag.extract faultyTags.comments).map fun tag =>
          (Check.ofTag .long faultyTags tag).map Finding.rule) =
        [[], [.tagTypePosition], [.incompleteTag], [.incompleteTag],
          [.tagTypeSyntax], [.unknownParamName]] ∧
      ((∃ finding ∈ Check.ofTag .long faultyTags twiceFaultyTag,
          finding.rule.isAboutParameterTag = true) ↔
        twiceFaultyTag.IsFaulty faultyTags.parameterNames) := by
  have noOverload : ∀ tag ∈ Tag.extract faultyTags.comments,
      tag.kind ≠ .overload := by
    decide +kernel
  have isTag : twiceFaultyTag ∈ Tag.extract faultyTags.comments := by
    decide +kernel
  refine ⟨rfl, by decide, noOverload, isTag, by decide, by decide,
    by decide +kernel, ?_⟩
  exact ((parameterTag_reported_iff_isFaulty faultyTags rfl (by decide)
    noOverload).2 twiceFaultyTag isTag (by decide) (by decide)).1

end DocLint
