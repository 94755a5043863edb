import DocLint.Checker

/-!
# Where findings come from

Every check looks at tags or parameters one by one.  A finding is traced back to
the tag or the parameter that it is about, to the comment line where it stands,
and to what is wrong there.  Nothing else is known about a finding but the text
of its message.
-/

namespace DocLint

namespace Check

variable {declaration : Declaration}
variable {comments : List CommentLine}
variable {tags : List Tag}
variable {prototype : Prototype}
variable {finding : Finding}

/-! ## Findings for tags -/

theorem exists_of_mem_tagPositions
    (member : finding ∈ tagPositions comments tags) :
    ∃ tag ∈ tags, ∃ comment message, tag.misplacedTypes.isSome = true ∧
      comments[tag.lineIndex]? = some comment ∧
      finding = Finding.of .tagTypePosition message
        (Span.ofComment comment) := by
  obtain ⟨tag, isTag, found⟩ := List.mem_filterMap.mp member
  obtain ⟨misplaced, isMisplaced, behind⟩ := Option.bind_eq_some_iff.mp found
  obtain ⟨comment, isComment, given⟩ := Option.bind_eq_some_iff.mp behind
  exact ⟨tag, isTag, comment, _, by simp [isMisplaced], isComment,
    (Option.some.inj given).symm⟩

theorem exists_of_mem_meaninglessTags
    (member : finding ∈ meaninglessTags declaration tags) :
    ∃ tag ∈ tags, ∃ comment message,
      declaration.comments[tag.lineIndex]? = some comment ∧
      finding = Finding.of .meaninglessTag message
        (Span.ofComment comment) := by
  unfold meaninglessTags at member
  split at member
  · exact absurd member (by simp)
  · obtain ⟨tag, isTag, found⟩ := List.mem_filterMap.mp member
    obtain ⟨comment, isComment, given⟩ := Option.bind_eq_some_iff.mp found
    exact ⟨tag, (List.mem_filter.mp isTag).1, comment, _, isComment,
      (Option.some.inj given).symm⟩

/-- A tag of a method is reported for lack of a name or of types, or for a name
that is no parameter's although its types can be read. -/
theorem tagFinding?_cases
    {names : List String}
    {comment : CommentLine}
    {tag : Tag}
    (found : tagFinding? names comment tag = some finding) :
    (∃ message, (tag.name = none ∨ tag.types = none) ∧
      finding = Finding.of .incompleteTag message
        (Span.ofComment comment)) ∨
    (∃ name types read message, tag.name = some name ∧
      tag.types = some types ∧ name.text ∉ names ∧
      TypeExpr.parse types.text.toList = .ok read ∧
      finding = Finding.of .unknownParamName message
        (Span.ofPlace name.place)) := by
  unfold tagFinding? at found
  split at found
  · rename_i noName
    exact Or.inl ⟨_, Or.inl noName, (Option.some.inj found).symm⟩
  · rename_i noTypes
    exact Or.inl ⟨_, Or.inr noTypes, (Option.some.inj found).symm⟩
  · rename_i name types hasName hasTypes
    split at found
    · exact absurd found (by simp)
    · rename_i unknown
      split at found
      · exact absurd found (by simp)
      · rename_i read parsed
        exact Or.inr ⟨name, types, read, _, hasName, hasTypes,
          by simpa using unknown, parsed, (Option.some.inj found).symm⟩

theorem exists_of_mem_reconciledTags
    (member : finding ∈ reconciledTags declaration tags) :
    ∃ tag ∈ tags, ∃ comment, isReconciled tag = true ∧
      declaration.comments[tag.lineIndex]? = some comment ∧
      tagFinding? declaration.parameterNames comment tag = some finding := by
  obtain ⟨tag, isTag, found⟩ := List.mem_filterMap.mp member
  obtain ⟨comment, isComment, given⟩ := Option.bind_eq_some_iff.mp found
  obtain ⟨inTags, reconciled⟩ := List.mem_filter.mp isTag
  exact ⟨tag, inTags, comment, reconciled, isComment, given⟩

theorem tagPositions_append
    (comments : List CommentLine)
    (tags further : List Tag) :
    tagPositions comments (tags ++ further) =
      tagPositions comments tags ++ tagPositions comments further :=
  List.filterMap_append

theorem reconciledTags_append
    (declaration : Declaration)
    (tags further : List Tag) :
    reconciledTags declaration (tags ++ further) =
      reconciledTags declaration tags ++
        reconciledTags declaration further := by
  rw [reconciledTags, List.filter_append, List.filterMap_append]
  rfl

/-! ## Findings for parameters -/

theorem guard_eq_some_iff
    {condition : Bool} :
    (guard (condition = true) : Option Unit) = some () ↔
      condition = true := by
  cases condition with
  | true => exact ⟨fun _ => rfl, fun _ => rfl⟩
  | false =>
      constructor
      · exact fun passed => nomatch passed
      · exact fun passed => nomatch passed

/-- A parameter is reported if it needs documentation and no tag has its
name. -/
theorem exists_of_undocumentedFinding?
    {last : CommentLine}
    {documented : List String}
    {parameter : Parameter}
    (found : undocumentedFinding? prototype last documented parameter =
      some finding) :
    ∃ name message, parameter.needsDocumentation = true ∧
      parameter.name = some name ∧ name ∉ documented ∧
      finding =
        { Finding.of .undocumentedArgument message (Span.ofComment last) with
          correction := some ⟨Span.point last.line last.endColumn,
            suggestion prototype last.column name parameter⟩ } := by
  obtain ⟨_, needed, behind⟩ := Option.bind_eq_some_iff.mp found
  obtain ⟨name, hasName, guarded⟩ := Option.bind_eq_some_iff.mp behind
  obtain ⟨_, unknown, given⟩ := Option.bind_eq_some_iff.mp guarded
  refine ⟨name, _, ?_, hasName, ?_, (Option.some.inj given).symm⟩
  · exact guard_eq_some_iff.mp needed
  · simpa using guard_eq_some_iff.mp unknown

/-- Parameters are only reported behind the last leading line. -/
theorem exists_of_mem_undocumentedArguments
    (member : finding ∈ undocumentedArguments declaration tags prototype) :
    ∃ last, lastLeading? declaration.comments = some last ∧
      ∃ parameter ∈ declaration.parameters,
        undocumentedFinding? prototype last (documentedNames tags) parameter =
          some finding := by
  unfold undocumentedArguments at member
  split at member
  · split at member
    · exact absurd member (by simp)
    · rename_i last isLast
      obtain ⟨parameter, isParameter, found⟩ := List.mem_filterMap.mp member
      exact ⟨last, isLast, parameter, isParameter, found⟩
  · exact absurd member (by simp)

/-- The checks for tags and for parameters report different rules. -/
theorem rule_ne_of_mem_reconciledTags
    (member : finding ∈ reconciledTags declaration tags) :
    finding.rule ≠ .undocumentedArgument := by
  obtain ⟨_, _, _, _, _, found⟩ := exists_of_mem_reconciledTags member
  rcases tagFinding?_cases found with
    ⟨_, _, rfl⟩ | ⟨_, _, _, _, _, _, _, _, rfl⟩
  · exact fun equal => nomatch equal
  · exact fun equal => nomatch equal

theorem rule_of_mem_undocumentedArguments
    (member : finding ∈ undocumentedArguments declaration tags prototype) :
    finding.rule = .undocumentedArgument := by
  obtain ⟨_, _, _, _, found⟩ := exists_of_mem_undocumentedArguments member
  obtain ⟨_, _, _, _, _, rfl⟩ := exists_of_undocumentedFinding? found
  rfl

theorem mem_arguments_cases
    (member : finding ∈ arguments declaration tags prototype) :
    finding ∈ reconciledTags declaration tags ∨
      finding ∈ undocumentedArguments declaration tags prototype := by
  unfold arguments at member
  split at member
  · exact absurd member (by simp)
  · exact List.mem_append.mp member

/-- Only the check for parameters reports parameters. -/
theorem mem_undocumentedArguments_of_mem_arguments
    (member : finding ∈ arguments declaration tags prototype)
    (isRule : finding.rule = .undocumentedArgument) :
    finding ∈ undocumentedArguments declaration tags prototype := by
  rcases mem_arguments_cases member with forTag | forParameter
  · exact absurd isRule (rule_ne_of_mem_reconciledTags forTag)
  · exact forParameter

/-- A method with parameters is left alone only if it documents overloads. -/
theorem arguments_eq_append
    (isMethod : declaration.kind = .method)
    (hasParameters : declaration.parameters ≠ [])
    (noOverload : ∀ tag ∈ tags, tag.kind ≠ .overload)
    (prototype : Prototype) :
    arguments declaration tags prototype =
      reconciledTags declaration tags ++
        undocumentedArguments declaration tags prototype := by
  apply if_neg
  rintro (notMethod | isEmpty | overloaded)
  · exact notMethod isMethod
  · exact hasParameters (List.isEmpty_iff.mp isEmpty)
  · obtain ⟨tag, isTag, isOverload⟩ := List.any_eq_true.mp overloaded
    exact noOverload tag isTag (beq_iff_eq.mp isOverload)

theorem isMethod_of_mem_arguments
    (member : finding ∈ arguments declaration tags prototype) :
    declaration.kind = .method ∧ declaration.parameters ≠ [] ∧
      ∀ tag ∈ tags, tag.kind ≠ .overload := by
  unfold arguments at member
  split at member
  · exact absurd member (by simp)
  · rename_i reconciled
    simpa using reconciled

end Check

namespace Settings

variable {settings : Settings}
variable {declaration : Declaration}
variable {finding : Finding}

/-! ## Findings for a declaration -/

/-- A finding is one of an enabled rule, with the severity that is
configured. -/
theorem mem_check :
    finding ∈ settings.check declaration ↔
      ∃ original ∈ settings.allFindings declaration,
        settings.isEnabled original.rule = true ∧
        finding =
          { original with severity := settings.severity original.rule } := by
  unfold check
  constructor
  · intro member
    obtain ⟨original, kept, rfl⟩ := List.mem_map.mp member
    obtain ⟨found, isEnabled⟩ := List.mem_filter.mp kept
    exact ⟨original, found, isEnabled, rfl⟩
  · rintro ⟨original, found, isEnabled, rfl⟩
    exact List.mem_map.mpr
      ⟨original, List.mem_filter.mpr ⟨found, isEnabled⟩, rfl⟩

/-- A finding is about the types of a tag, their position, the tags and
parameters of a method, or the tags of something else. -/
theorem mem_allFindings_cases
    (member : finding ∈ settings.allFindings declaration) :
    (∃ tag ∈ Tag.extract declaration.comments,
      finding ∈ Check.tagTypes settings.style tag) ∨
    finding ∈ Check.tagPositions declaration.comments
      (Tag.extract declaration.comments) ∨
    finding ∈ Check.arguments declaration (Tag.extract declaration.comments)
      settings.prototype ∨
    finding ∈ Check.meaninglessTags declaration
      (Tag.extract declaration.comments) := by
  unfold allFindings at member
  rcases List.mem_append.mp member with member | member
  · rcases List.mem_append.mp member with member | member
    · exact Or.inl (List.mem_flatMap.mp member)
    · exact Or.inr (Or.inl member)
  · split at member
    · exact Or.inr (Or.inr (Or.inl member))
    · exact Or.inr (Or.inr (Or.inr member))

end Settings
end DocLint
