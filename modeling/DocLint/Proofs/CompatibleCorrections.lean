import DocLint.Proofs.CorrectionFixpoint
import DocLint.Proofs.FindingSpans

/-!
# Corrections do not get into each other's way

A correction replaces an alternative of a tag's types on one line, or puts a tag
behind the last leading line.  The findings for one alternative share their
correction.  Different alternatives stand on different parts of the source:
within a tag because they follow each other in its types, and in different tags
because no line belongs to two of them.
-/

namespace DocLint

open Text

/-- Spans that do not overlap: they are on different lines, or one of them ends
where the other one starts or before it.  An empty span does not stand inside of
the other one either. -/
def Span.Apart (span other : Span) : Prop :=
  span.line ≠ other.line ∨ span.endColumn ≤ other.startColumn ∨
    other.endColumn ≤ span.startColumn

namespace Span

instance (span other : Span) : Decidable (span.Apart other) :=
  inferInstanceAs (Decidable (_ ∨ _ ∨ _))

theorem Apart.symm
    {span other : Span}
    (apart : span.Apart other) :
    other.Apart span := by
  rcases apart with lines | before | behind
  · exact Or.inl lines.symm
  · exact Or.inr (Or.inr before)
  · exact Or.inr (Or.inl behind)

end Span

/-- A finding is about an alternative of a tag's types, however severe it is. -/
def Finding.IsAbout
    (style : Style)
    (tag : Tag)
    (alternative : Alternative)
    (finding : Finding) : Prop :=
  ∃ types alternatives, tag.types = some types ∧
    TypeExpr.parseAlternatives types.text.toList = .ok alternatives ∧
    alternative ∈ alternatives ∧
    ∃ original ∈ Check.alternativeFindings types style alternative,
      finding = { original with severity := finding.severity }

/-! ## Where corrections come from -/

/-- The correction of a finding replaces an alternative of the types of a block,
which stands on one line. -/
structure Replaces
    (style : Style)
    (block : TagBlock)
    (types : TagText)
    (alternatives : List Alternative)
    (alternative : Alternative)
    (correction : Correction) : Prop where
  hasTypes : block.tag.types = some types
  parsed : TypeExpr.parseAlternatives types.text.toList = .ok alternatives
  member : alternative ∈ alternatives
  located : (types.locate? alternative.start alternative.stop).isSome = true
  correction_eq : correction =
    ⟨Check.alternativeSpan types alternative,
      Check.correctedText style alternative⟩

section Origins

variable {settings : Settings}
variable {declaration : Declaration}
variable {finding : Finding}
variable {correction : Correction}

/-- A correction for the types of a tag replaces one of its alternatives. -/
theorem Check.exists_replaces_of_mem_tagTypes
    {style : Style}
    {block : TagBlock}
    (member : finding ∈ tagTypes style block.tag)
    (given : finding.correction = some correction) :
    finding.rule.isCollection = true ∧
      ∃ types alternatives alternative,
        Replaces style block types alternatives alternative correction ∧
        finding ∈ alternativeFindings types style alternative := by
  rcases mem_tagTypes_cases member with
    ⟨types, error, _, _, rfl⟩ |
    ⟨types, alternatives, alternative, hasTypes, parsed, isAlternative,
      complaint, complains, rfl⟩
  · exact absurd given (by simp [syntaxFinding, Finding.of])
  · have located : (types.locate? alternative.start
        alternative.stop).isSome = true := by
      by_contra notLocated
      rw [correction_reported_of_not_located notLocated] at given
      exact absurd given (by simp)
    rw [correction_reported_of_located located] at given
    refine ⟨isCollection_of_mem_complaints complains, types, alternatives,
      alternative, ⟨hasTypes, parsed, isAlternative, located,
        (Option.some.inj given).symm⟩, ?_⟩
    rw [alternativeFindings_eq]
    exact List.mem_map_of_mem complains

/-- A correction replaces an alternative of a tag's types, or puts a tag behind
the last leading line. -/
theorem Settings.correction_cases
    (member : finding ∈ settings.allFindings declaration)
    (given : finding.correction = some correction) :
    (finding.rule.isCollection = true ∧
      ∃ block ∈ TagBlock.ofComments declaration.comments,
      ∃ types alternatives alternative,
        Replaces settings.style block types alternatives alternative
          correction ∧
        finding ∈ Check.alternativeFindings types settings.style
          alternative) ∨
    (finding.rule = .undocumentedArgument ∧
      ∃ last, lastLeading? declaration.comments = some last ∧
        correction.span = Span.point last.line last.endColumn) := by
  rcases mem_allFindings_cases member with
    ⟨tag, isTag, member⟩ | member | member | member
  · obtain ⟨block, isBlock, rfl⟩ := TagBlock.exists_of_mem_extract isTag
    obtain ⟨isCollection, replaced⟩ :=
      Check.exists_replaces_of_mem_tagTypes member given
    exact Or.inl ⟨isCollection, block, isBlock, replaced⟩
  · obtain ⟨_, _, _, _, _, _, rfl⟩ := Check.exists_of_mem_tagPositions member
    exact absurd given (by simp [Finding.of])
  · rcases Check.mem_arguments_cases member with member | member
    · obtain ⟨_, _, _, _, _, found⟩ :=
        Check.exists_of_mem_reconciledTags member
      rcases Check.tagFinding?_cases found with
        ⟨_, _, rfl⟩ | ⟨_, _, _, _, _, _, _, _, rfl⟩
      · exact absurd given (by simp [Finding.of])
      · exact absurd given (by simp [Finding.of])
    · obtain ⟨last, isLast, _, _, found⟩ :=
        Check.exists_of_mem_undocumentedArguments member
      obtain ⟨_, _, _, _, _, rfl⟩ :=
        Check.exists_of_undocumentedFinding? found
      obtain rfl := Option.some.inj given
      exact Or.inr ⟨rfl, last, isLast, rfl⟩
  · obtain ⟨_, _, _, _, _, rfl⟩ := Check.exists_of_mem_meaninglessTags member
    exact absurd given (by simp [Finding.of])

end Origins

/-! ## Alternatives on the same line -/

namespace Body

/-- Stretches that follow each other have spans that do not overlap, if the
lines of the body have different numbers. -/
theorem OnLine.apart
    {body : Body}
    (distinct : (body.lines.map BodyLine.line).Nodup)
    {start stop otherStart otherStop : Nat}
    {span other : Span}
    {earlier otherEarlier : List BodyLine}
    {line otherLine : BodyLine}
    {left otherLeft : Nat}
    (onLine : body.OnLine start stop span earlier line left)
    (otherOnLine : body.OnLine otherStart otherStop other otherEarlier otherLine
      otherLeft)
    (ordered : stop ≤ otherStart) :
    span.Apart other := by
  obtain ⟨⟨later, split⟩, startEq, _, _, _, rfl⟩ := onLine
  obtain ⟨⟨otherLater, otherSplit⟩, otherStartEq, _, _, _, rfl⟩ := otherOnLine
  by_cases sameLine : line.line = otherLine.line
  · obtain ⟨rfl, rfl⟩ := split_eq_of_nodup distinct split otherSplit sameLine
    refine Or.inr (Or.inl ?_)
    dsimp only
    omega
  · exact Or.inl sameLine

end Body

namespace Replaces

variable {style : Style}
variable {comments : List CommentLine}
variable {block other : TagBlock}
variable {types otherTypes : TagText}
variable {alternatives otherAlternatives : List Alternative}
variable {alternative otherAlternative : Alternative}
variable {correction otherCorrection : Correction}

/-- What is replaced stands on a line of the block's body. -/
theorem exists_onLine
    (replaces : Replaces style block types alternatives alternative correction)
    {before after : List Char}
    (chars : block.body.chars = before ++ types.text.toList ++ after)
    (typesEq : block.body.textAt before types.text.toList = types) :
    ∃ earlier line left,
      block.body.OnLine (byteLength before + alternative.start)
        (byteLength before + alternative.stop) correction.span earlier line
        left := by
  obtain ⟨raw, standsOn, writes⟩ :=
    exists_raw_of_parsed replaces.parsed replaces.member
  have located := replaces.located
  rw [← typesEq] at located
  have onLine := Body.exists_onLine chars standsOn writes located
  rw [typesEq] at onLine
  rw [replaces.correction_eq]
  exact onLine

theorem exists_line
    (replaces : Replaces style block types alternatives alternative
      correction) :
    ∃ line ∈ block.body.lines, correction.span.line = line.line := by
  obtain ⟨before, after, chars, typesEq⟩ :=
    TagBlock.exists_cut replaces.hasTypes
  obtain ⟨earlier, line, left, onLine⟩ := replaces.exists_onLine chars typesEq
  obtain ⟨later, split⟩ := onLine.split
  exact ⟨line, by simp [split], by rw [onLine.span_eq]⟩

/-- Corrections of two alternatives of the same types do not overlap. -/
theorem apart_of_ne
    (distinct : (block.body.lines.map BodyLine.line).Nodup)
    (replaces : Replaces style block types alternatives alternative correction)
    (otherReplaces : Replaces style block types alternatives otherAlternative
      otherCorrection)
    (different : alternative ≠ otherAlternative) :
    correction.span.Apart otherCorrection.span := by
  obtain ⟨before, after, chars, typesEq⟩ :=
    TagBlock.exists_cut replaces.hasTypes
  obtain ⟨_, _, _, onLine⟩ := replaces.exists_onLine chars typesEq
  obtain ⟨_, _, _, otherOnLine⟩ := otherReplaces.exists_onLine chars typesEq
  have symmetric : Std.Symm fun old later : Alternative =>
      old.stop ≤ later.start ∨ later.stop ≤ old.start :=
    ⟨fun _ _ => Or.symm⟩
  have ordered := (pairwise_of_parsed replaces.parsed).imp
    (S := fun old later : Alternative =>
      old.stop ≤ later.start ∨ later.stop ≤ old.start) Or.inl
  rcases ordered.forall replaces.member otherReplaces.member different with
    inOrder | inReverse
  · exact onLine.apart distinct otherOnLine (by omega)
  · exact (otherOnLine.apart distinct onLine (by omega)).symm

/-- Corrections of alternatives are the same, or do not overlap. -/
theorem eq_or_apart
    (distinct : (comments.map CommentLine.line).Nodup)
    (isBlock : block ∈ TagBlock.ofComments comments)
    (isOther : other ∈ TagBlock.ofComments comments)
    (replaces : Replaces style block types alternatives alternative correction)
    (otherReplaces : Replaces style other otherTypes otherAlternatives
      otherAlternative otherCorrection) :
    (block = other ∧ types = otherTypes ∧ alternative = otherAlternative ∧
      correction = otherCorrection) ∨
    correction.span.Apart otherCorrection.span := by
  by_cases sameLine : correction.span.line = otherCorrection.span.line
  · obtain ⟨line, isLine, lineEq⟩ := replaces.exists_line
    obtain ⟨otherLine, isOtherLine, otherLineEq⟩ := otherReplaces.exists_line
    -- The number of the line tells which block the alternatives belong to.
    obtain rfl := TagBlock.eq_of_line distinct isBlock isOther isLine
      isOtherLine (by rw [← lineEq, sameLine, otherLineEq])
    obtain rfl : types = otherTypes :=
      Option.some.inj (replaces.hasTypes.symm.trans otherReplaces.hasTypes)
    obtain rfl : alternatives = otherAlternatives :=
      Except.ok.inj (replaces.parsed.symm.trans otherReplaces.parsed)
    by_cases sameAlternative : alternative = otherAlternative
    · obtain rfl := sameAlternative
      refine Or.inl ⟨rfl, rfl, rfl, ?_⟩
      rw [replaces.correction_eq, otherReplaces.correction_eq]
    · exact Or.inr (apart_of_ne (TagBlock.nodup_body_lines distinct isBlock)
        replaces otherReplaces sameAlternative)
  · exact Or.inr (Or.inl sameLine)

end Replaces

/-! ## Behind the last leading line -/

/-- What a collection is replaced by does not reach beyond the end of the last
leading line. -/
theorem Finding.StandsIn.apart_point
    {comments : List CommentLine}
    {finding : Finding}
    {correction : Correction}
    {last : CommentLine}
    (standsIn : finding.StandsIn comments)
    (distinct : (comments.map CommentLine.line).Nodup)
    (isCollection : finding.rule.isCollection = true)
    (given : finding.correction = some correction)
    (isLast : lastLeading? comments = some last) :
    correction.span.Apart (Span.point last.line last.endColumn) := by
  rcases standsIn.correction correction given with
    spanEq | ⟨inserted, isInserted, spanEq⟩
  · obtain ⟨comment, inComments, _, liesOn⟩ := standsIn.onLine
    have notSyntax : finding.rule ≠ .tagTypeSyntax := by
      intro isSyntax
      rw [isSyntax] at isCollection
      exact absurd isCollection (by decide)
    rw [← spanEq, if_neg notSyntax] at liesOn
    by_cases sameLine : comment.line = last.line
    · have inCommentsLast : last ∈ comments :=
        List.mem_reverse.mp (List.mem_of_find?_eq_some isLast)
      obtain rfl := List.inj_on_of_nodup_map distinct inComments inCommentsLast
        sameLine
      exact Or.inr (Or.inl liesOn.stop)
    · refine Or.inl ?_
      rw [liesOn.line_eq]
      exact sameLine
  · obtain rfl := Option.some.inj (isInserted.symm.trans isLast)
    rw [spanEq]
    exact Or.inr (Or.inl (Nat.le_of_eq (Nat.max_self _)))

/-! ## Every two corrections -/

/-- Two corrections for a declaration whose comment lines have different numbers
are the same one, from findings about one alternative, or they both put a tag
behind the last leading line, or they change parts that do not overlap. -/
theorem corrections_compatible
    (config : Config)
    (declaration : Declaration)
    (distinct : (declaration.comments.map CommentLine.line).Nodup)
    {finding other : Finding}
    (member : finding ∈ (Checker.mk config none).check declaration)
    (otherMember : other ∈ (Checker.mk config none).check declaration)
    {correction otherCorrection : Correction}
    (given : finding.correction = some correction)
    (otherGiven : other.correction = some otherCorrection) :
    (finding.rule.isCollection = true ∧ other.rule.isCollection = true ∧
      correction = otherCorrection ∧
      ∃ tag ∈ Tag.extract declaration.comments, ∃ alternative,
        finding.IsAbout config.style tag alternative ∧
        other.IsAbout config.style tag alternative) ∨
    (finding.rule = .undocumentedArgument ∧
      other.rule = .undocumentedArgument ∧
      ∃ last, lastLeading? declaration.comments = some last ∧
        correction.span = Span.point last.line last.endColumn ∧
        otherCorrection.span = Span.point last.line last.endColumn) ∨
    correction.span.Apart otherCorrection.span := by
  obtain ⟨original, found, _, rfl⟩ := Settings.mem_check.mp member
  obtain ⟨otherOriginal, otherFound, _, rfl⟩ :=
    Settings.mem_check.mp otherMember
  have standsIn := Settings.standsIn_of_mem_allFindings found
  have otherStandsIn := Settings.standsIn_of_mem_allFindings otherFound
  rcases Settings.correction_cases found given with
    ⟨isCollection, block, isBlock, types, alternatives, alternative, replaces,
      isFinding⟩ | ⟨rule, last, isLast, spanEq⟩
  · rcases Settings.correction_cases otherFound otherGiven with
      ⟨otherIsCollection, otherBlock, isOtherBlock, otherTypes,
        otherAlternatives, otherAlternative, otherReplaces, isOther⟩ |
      ⟨_, last, isLast, spanEq⟩
    · rcases replaces.eq_or_apart distinct isBlock isOtherBlock otherReplaces
        with ⟨rfl, rfl, rfl, same⟩ | apart
      · refine Or.inl ⟨isCollection, otherIsCollection, same, block.tag, ?_,
          alternative, ?_, ?_⟩
        · rw [← TagBlock.map_tag_ofComments]
          exact List.mem_map_of_mem isBlock
        · exact ⟨types, alternatives, replaces.hasTypes, replaces.parsed,
            replaces.member, original, isFinding, rfl⟩
        · exact ⟨types, alternatives, replaces.hasTypes, replaces.parsed,
            replaces.member, otherOriginal, isOther, rfl⟩
      · exact Or.inr (Or.inr apart)
    · rw [spanEq]
      exact Or.inr (Or.inr
        (standsIn.apart_point distinct isCollection given isLast))
  · rcases Settings.correction_cases otherFound otherGiven with
      ⟨otherIsCollection, _⟩ | ⟨otherRule, otherLast, isOtherLast, otherSpanEq⟩
    · rw [spanEq]
      exact Or.inr (Or.inr
        (otherStandsIn.apart_point distinct otherIsCollection otherGiven
          isLast).symm)
    · obtain rfl := Option.some.inj (isLast.symm.trans isOtherLast)
      exact Or.inr (Or.inl
        ⟨rule, otherRule, last, isLast, spanEq, otherSpanEq⟩)

/-! ## Corrections that meet -/

/-- A method whose only tag has two alternatives to correct, the second one of
them up to the end of the line. -/
def meetingCorrections : Declaration where
  kind := .method
  name := "merge"
  line := 2
  column := 0
  parameters := [⟨some "x", .required, none⟩, ⟨some "y", .required, none⟩]
  comments := [⟨1, 0, "# @param [Hash<A, B>, (é)", true⟩]

/-- What is found about the second alternative. -/
def lastAlternativeFinding : Finding where
  rule := .collectionStyle
  message := "`(é)` is using short style syntax"
  span := ⟨1, 22, 26⟩
  severity := .info
  correction := some ⟨⟨1, 22, 26⟩, "Array(é)"⟩

/-- What is found about the first parameter. -/
def withoutTagFinding : Finding where
  rule := .undocumentedArgument
  message := "This method has argument `x`, But not documented"
  span := ⟨1, 0, 26⟩
  severity := .warning
  correction := some ⟨⟨1, 26, 26⟩, "\n# @param [Object] x"⟩

/-- The tag for the first parameter goes to where the last alternative ends, and
neither correction is in the way of the other. -/
theorem corrections_compatible_end_of_line :
    lastAlternativeFinding ∈ (Checker.mk {} none).check meetingCorrections ∧
      withoutTagFinding ∈ (Checker.mk {} none).check meetingCorrections ∧
      Span.Apart ⟨1, 22, 26⟩ ⟨1, 26, 26⟩ := by
  have member : lastAlternativeFinding ∈
      (Checker.mk {} none).check meetingCorrections := by
    decide +kernel
  have otherMember : withoutTagFinding ∈
      (Checker.mk {} none).check meetingCorrections := by
    decide +kernel
  refine ⟨member, otherMember, ?_⟩
  rcases corrections_compatible {} meetingCorrections (by decide) member
      otherMember rfl rfl with
    ⟨_, otherIsCollection, _⟩ | ⟨rule, _⟩ | apart
  · exact absurd otherIsCollection (by decide)
  · exact absurd rule (by decide)
  · exact apart

end DocLint
