import DocLint.Proofs.CollectionCorrections
import Mathlib.Data.List.Forall2
import Mathlib.Data.List.Pairwise

/-!
# Correcting once is enough

The corrections of all findings about collections are made at once, in the
comment of a declaration whose lines have numbers of their own.  Checking the
corrected declaration finds nothing about collections any more, and no type list
that could be read before has become unreadable.
-/

namespace DocLint

open Text

/-! ## Blocks have lines of their own -/

namespace TagBlock

variable {comments : List CommentLine}

theorem map_line_lines (block : TagBlock) :
    block.body.lines.map BodyLine.line =
      block.comments.map CommentLine.line := by
  simp only [Body.lines, body, TagBlock.comments, List.map_cons, List.map_map]
  rfl

theorem nodup_lines
    (distinct : (comments.map CommentLine.line).Nodup) :
    ((ofComments comments).flatMap fun block =>
      block.body.lines.map BodyLine.line).Nodup := by
  have numbers : ((ofComments comments).flatMap fun block =>
      block.body.lines.map BodyLine.line) =
        ((ofComments comments).flatMap TagBlock.comments).map
          CommentLine.line := by
    rw [List.map_flatMap]
    exact List.flatMap_congr fun block _ => map_line_lines block
  rw [numbers]
  have inComments := (comments_ofComments_sublist comments).trans
    List.filter_sublist
  exact (inComments.map CommentLine.line).nodup distinct

/-- Two blocks that share the number of a line are the same block. -/
theorem eq_of_line
    (distinct : (comments.map CommentLine.line).Nodup)
    {block other : TagBlock}
    (isBlock : block ∈ ofComments comments)
    (isOther : other ∈ ofComments comments)
    {line otherLine : BodyLine}
    (member : line ∈ block.body.lines)
    (otherMember : otherLine ∈ other.body.lines)
    (same : line.line = otherLine.line) :
    block = other := by
  obtain ⟨_, apart⟩ := List.nodup_flatMap.mp (nodup_lines distinct)
  have symmetric : Std.Symm (Function.onFun List.Disjoint
      fun block : TagBlock => block.body.lines.map BodyLine.line) :=
    ⟨fun _ _ disjoint => disjoint.symm⟩
  by_contra different
  have disjoint := apart.forall isBlock isOther different
  apply disjoint (List.mem_map_of_mem member)
  rw [same]
  exact List.mem_map_of_mem otherMember

theorem nodup_body_lines
    (distinct : (comments.map CommentLine.line).Nodup)
    {block : TagBlock}
    (isBlock : block ∈ ofComments comments) :
    (block.body.lines.map BodyLine.line).Nodup :=
  (List.nodup_flatMap.mp (nodup_lines distinct)).1 block isBlock

end TagBlock

/-! ## The corrections on the lines of one block -/

/-- A written text starts with a character of a type. -/
theorem Writes.exists_first
    {text : List Char}
    {type : TypeExpr}
    (writes : Writes text type) :
    ∃ c more, text = c :: more ∧ isTypeChar c = true := by
  obtain ⟨c, head, notBlank⟩ := writes.tight.head
  obtain ⟨more, rfl⟩ := List.head?_eq_some_iff.mp head
  obtain ⟨kinds, ⟨tokens, tokensAt, _⟩, _⟩ := writes.derived
  refine ⟨c, more, rfl, ?_⟩
  rcases tokensAt.mem_cases List.mem_cons_self with blank | typeChar
  · rw [notBlank] at blank
    exact absurd blank (by simp)
  · exact typeChar

section Blocks

variable {settings : Settings}
variable {declaration : Declaration}
variable {block : TagBlock}
variable {before : List Char}
variable {cut : TypeListCut}
variable {types : TagText}
variable {alternatives : List Alternative}

/-- A reported alternative is corrected on one line of its body. -/
theorem exists_onLine_of_reportedIn
    (canCorrect : settings.CanCorrect declaration)
    (isBlock : block ∈ TagBlock.ofComments declaration.comments)
    {alternative : Alternative}
    (reportedIn : Check.ReportedIn settings block types alternatives
      alternative)
    {after : List Char}
    (chars : block.body.chars = before ++ types.text.toList ++ after)
    (typesEq : block.body.textAt before types.text.toList = types) :
    ∃ earlier line left,
      block.body.OnLine (byteLength before + alternative.start)
        (byteLength before + alternative.stop)
        (Check.correctionOf settings types alternative).span
        earlier line left := by
  have located := located_of_reportedIn canCorrect isBlock reportedIn
  obtain ⟨raw, standsOn, writes⟩ :=
    exists_raw_of_parsed reportedIn.parsed reportedIn.member
  rw [← typesEq] at located
  have onLine := Body.exists_onLine chars standsOn writes located
  rw [typesEq] at onLine
  exact onLine

/-- A correction stands on a line of the block that it comes from. -/
theorem exists_line_of_reportedIn
    (canCorrect : settings.CanCorrect declaration)
    (isBlock : block ∈ TagBlock.ofComments declaration.comments)
    {alternative : Alternative}
    (reportedIn : Check.ReportedIn settings block types alternatives
      alternative) :
    ∃ line ∈ block.body.lines,
      (Check.correctionOf settings types alternative).span.line =
        line.line := by
  obtain ⟨front, after, chars, typesEq⟩ := TagBlock.exists_cut reportedIn.hasTypes
  obtain ⟨earlier, line, left, onLine⟩ :=
    exists_onLine_of_reportedIn canCorrect isBlock reportedIn chars typesEq
  obtain ⟨later, split⟩ := onLine.split
  refine ⟨line, by simp [split], ?_⟩
  rw [onLine.span_eq]

/-- The corrections on the lines of a block are those of its own types. -/
theorem correctsTypes_of_parsed
    (distinct : (declaration.comments.map CommentLine.line).Nodup)
    (canCorrect : settings.CanCorrect declaration)
    (isBlock : block ∈ TagBlock.ofComments declaration.comments)
    (hasTypes : block.tag.types = some types)
    (parsed : TypeExpr.parseAlternatives types.text.toList = .ok alternatives)
    {opening after : List Char}
    (chars : block.body.chars =
      opening ++ ['['] ++ types.text.toList ++ after)
    (typesEq : block.body.textAt (opening ++ ['[']) types.text.toList =
      types) :
    CorrectsTypes (collectionCorrections (settings.check declaration))
      block.body opening types.text.toList after
      (Check.renewal settings types) alternatives
      (Check.correctionOf settings types) := by
  have reportedIn {old : Alternative} (member : old ∈ alternatives)
      (renewed : (Check.renewal settings types old).isSome = true) :
      Check.ReportedIn settings block types alternatives old := by
    rw [Check.isSome_renewal] at renewed
    exact ⟨hasTypes, parsed, member, renewed⟩
  refine ⟨chars, ⟨?_, ?_, ?_, ?_, ?_⟩, ?_, ?_, ?_⟩
  · exact List.nodup_dedup _
  · exact TagBlock.nodup_body_lines distinct isBlock
  · exact nodup_starts_of_parsed parsed
  · intro correction member line lineMember sameLine
    obtain ⟨other, isOther, otherTypes, otherAlternatives, old, otherReported,
      rfl⟩ := (mem_corrections_iff canCorrect).mp member
    obtain ⟨otherLine, otherMember, otherNumber⟩ :=
      exists_line_of_reportedIn canCorrect isOther otherReported
    -- The number of the line tells which block the correction comes from.
    obtain rfl := TagBlock.eq_of_line distinct isOther isBlock otherMember
      lineMember (otherNumber.symm.trans sameLine)
    obtain ⟨otherHasTypes, otherParsed, oldMember, reported⟩ := otherReported
    obtain rfl : otherTypes = types :=
      Option.some.inj (otherHasTypes.symm.trans hasTypes)
    obtain rfl : otherAlternatives = alternatives :=
      Except.ok.inj (otherParsed.symm.trans parsed)
    refine ⟨old, oldMember, ?_, rfl⟩
    rw [Check.isSome_renewal]
    exact reported
  · intro old member renewed
    refine ⟨?_, ?_, ?_⟩
    · exact (mem_corrections_iff canCorrect).mpr ⟨block, isBlock, types,
        alternatives, old, reportedIn member renewed, rfl⟩
    · have reported := (reportedIn member renewed).reported
      simp [Check.correctionOf, Check.correctedText, Check.renewal, Renewal.text,
        reported, TypeExpr.render]
    · exact exists_onLine_of_reportedIn canCorrect isBlock
        (reportedIn member renewed) chars typesEq
  · intro old member renewed
    obtain ⟨raw, _, writes⟩ := exists_raw_of_parsed parsed member
    have reported := (reportedIn member renewed).reported
    have textEq : (Check.renewal settings types).text [] old =
        old.type.correct.chars settings.style := by
      simp [Renewal.text, Check.renewal, reported]
    rw [textEq]
    exact (writes.corrected settings.style).exists_first
  · exact fun c member => typed_of_parsed parsed member
  · exact fun old member => stop_le_of_parsed parsed member

end Blocks

/-! ## The blocks of the corrected comment -/

section Corrected

variable {settings : Settings}
variable {declaration : Declaration}

/-- Corrected lines keep their shape. -/
theorem sameShape_corrected
    (distinct : (declaration.comments.map CommentLine.line).Nodup)
    (canCorrect : settings.CanCorrect declaration)
    {comment : CommentLine}
    (member : comment ∈ declaration.comments) :
    SameShape comment (comment.corrected
      (collectionCorrections (settings.check declaration))) := by
  by_cases present : ∃ correction ∈
      collectionCorrections (settings.check declaration),
      correction.span.line = comment.line
  · obtain ⟨correction, given, sameLine⟩ := present
    obtain ⟨block, isBlock, types, alternatives, alternative, reportedIn, rfl⟩ :=
      (mem_corrections_iff canCorrect).mp given
    obtain ⟨line, lineMember, lineNumber⟩ :=
      exists_line_of_reportedIn canCorrect isBlock reportedIn
    have isRead := TagBlock.isRead_of_mem_ofLines isBlock
    obtain ⟨owner, inBlock, isEndOf⟩ := isRead.exists_isEndOf lineMember
    have ownerMember := (TagBlock.mem_of_mem_ofComments isBlock inBlock).1
    obtain rfl : owner = comment := by
      apply List.inj_on_of_nodup_map distinct ownerMember member
      rw [← isEndOf.line_eq, ← lineNumber, sameLine]
    obtain ⟨_, _, _, _, opening, _, chars, typesEq⟩ :=
      TagBlock.exists_opening reportedIn.hasTypes
    have correctsTypes := correctsTypes_of_parsed distinct canCorrect isBlock
      reportedIn.hasTypes reportedIn.parsed chars typesEq
    rcases List.mem_cons.mp inBlock with rfl | further
    · exact correctsTypes.sameShape_first isRead
    · exact correctsTypes.sameShape_further isRead further
  · rw [CommentLine.corrected_eq_self]
    · exact SameShape.refl comment
    · intro correction given sameLine
      exact present ⟨correction, given, sameLine⟩

/-- The corrected comment has the corrected blocks. -/
theorem ofComments_corrected
    (distinct : (declaration.comments.map CommentLine.line).Nodup)
    (canCorrect : settings.CanCorrect declaration) :
    TagBlock.ofComments
        (declaration.corrected (settings.check declaration)).comments =
      (TagBlock.ofComments declaration.comments).map (TagBlock.map
        (CommentLine.corrected
          (collectionCorrections (settings.check declaration)))) :=
  TagBlock.ofComments_map fun _ member =>
    sameShape_corrected distinct canCorrect member

/-- A block without corrections on its lines stays as it is. -/
theorem TagBlock.map_corrected_eq_self
    {corrections : List Correction}
    {block : TagBlock}
    (isRead : block.IsRead)
    (absent : ∀ comment ∈ block.comments, ∀ correction ∈ corrections,
      correction.span.line ≠ comment.line) :
    block.map (CommentLine.corrected corrections) = block := by
  have first : block.first.corrected corrections = block.first :=
    CommentLine.corrected_eq_self (absent block.first List.mem_cons_self)
  have further : block.further.map (CommentLine.corrected corrections) =
      block.further := by
    rw [List.map_congr_left (g := id), List.map_id]
    intro comment member
    exact CommentLine.corrected_eq_self
      (absent comment (List.mem_cons_of_mem _ member))
  unfold TagBlock.map
  rw [first, further, isRead.directive]
  rfl

/-! ## The tag of a corrected block -/

/-- What a correction leaves of a tag: its place and its directive, no finding
about collections that is enabled, and the findings for types that cannot be
read. -/
structure Settled (settings : Settings) (old new : Tag) : Prop where
  lineIndex : new.lineIndex = old.lineIndex
  directive : new.directive = old.directive
  collections : ∀ finding ∈ Check.tagTypes settings.style new,
    finding.rule.isCollection = true →
      settings.isEnabled finding.rule = false
  unreadable :
    ((Check.tagTypes settings.style new).filter fun finding =>
        finding.rule == .tagTypeSyntax) =
      (Check.tagTypes settings.style old).filter fun finding =>
        finding.rule == .tagTypeSyntax

/-- Settled types can be read if they could be read before. -/
theorem Settled.isUnreadable
    {settings : Settings}
    {old new : Tag}
    (settled : Settled settings old new)
    (unreadable : new.IsUnreadable settings.style) :
    old.IsUnreadable settings.style := by
  obtain ⟨finding, member, isSyntax⟩ := unreadable
  have chosen := List.mem_filter (p := fun finding =>
    finding.rule == .tagTypeSyntax).mpr ⟨member, beq_iff_eq.mpr isSyntax⟩
  rw [settled.unreadable] at chosen
  exact ⟨finding, (List.mem_filter.mp chosen).1, isSyntax⟩

/-- Types that can be read have findings about collections only. -/
theorem filter_tagTypes_of_parsed
    {block : TagBlock}
    {types : TagText}
    (hasTypes : block.tag.types = some types)
    {alternatives : List Alternative}
    (parsed : TypeExpr.parseAlternatives types.text.toList = .ok alternatives)
    (style : Style) :
    ((Check.tagTypes style block.tag).filter fun finding =>
      finding.rule == .tagTypeSyntax) = [] := by
  apply List.filter_eq_nil_iff.mpr
  intro finding member isSyntax
  rw [Check.tagTypes_of_parsed hasTypes parsed] at member
  obtain ⟨alternative, _, found⟩ := List.mem_flatMap.mp member
  rw [Check.alternativeFindings_eq] at found
  obtain ⟨complaint, complains, rfl⟩ := List.mem_map.mp found
  have isCollection := Check.isCollection_of_mem_complaints complains
  have rule : complaint.1 = .tagTypeSyntax := beq_iff_eq.mp isSyntax
  rw [rule] at isCollection
  exact absurd isCollection (by decide)

theorem nesting_renewal
    (settings : Settings)
    (types : TagText)
    (old : Alternative) :
    ((Check.renewal settings types).type old).nesting = old.type.nesting := by
  unfold Renewal.type Check.renewal
  split
  · exact (TypeExpr.nesting_inStyle settings.style old.type.correct).trans
      (TypeExpr.nesting_correct old.type)
  · rfl

/-- A renewed alternative breaks no enabled rule. -/
theorem isReported_of_renews
    {settings : Settings}
    {types newTypes : TagText}
    {old new : Alternative}
    (renews : Renews (Check.renewal settings types) types.text.toList
      newTypes.text.toList 0 0 old new) :
    Check.isReported settings newTypes new = false := by
  obtain ⟨typeEq, raw, standsOn, newStandsOn⟩ := renews
  rw [Check.isReported, Check.rawText_eq newStandsOn, typeEq]
  cases reported : Check.isReported settings types old with
  | true =>
      have textEq : (Check.renewal settings types).text raw old =
          old.type.correct.chars settings.style := by
        simp [Renewal.text, Check.renewal, reported]
      have newType : (Check.renewal settings types).type old =
          old.type.correct.inStyle settings.style := by
        simp [Renewal.type, Check.renewal, reported]
      rw [textEq, newType, Check.complaints_corrected]
      rfl
  | false =>
      have textEq : (Check.renewal settings types).text raw old = raw := by
        simp [Renewal.text, Check.renewal, reported]
      have newType : (Check.renewal settings types).type old = old.type := by
        simp [Renewal.type, Check.renewal, reported]
      rw [textEq, newType, ← Check.rawText_eq standsOn]
      exact reported

/-- The types of a corrected block are the edited types. -/
theorem CorrectsTypes.text_types_map
    {corrections : List Correction}
    {block : TagBlock}
    {before opening text newText : List Char}
    {cut : TypeListCut}
    {renewal : Renewal}
    {alternatives newAlternatives : List Alternative}
    {correctionOf : Alternative → Correction}
    (correctsTypes : CorrectsTypes corrections block.body opening text
      (TypeListCut.closing cut.after) renewal alternatives correctionOf)
    (isRead : block.IsRead)
    (found : (TagKind.ofDirective
      (String.ofList block.cut.directive)).typesCut? block.body.chars =
        some (before, cut))
    (leadEq : before ++ cut.lead = opening ++ ['['])
    (applied : (Edit.ofAlternatives (byteLength (opening ++ ['['])) renewal
      alternatives).apply (byteLength (opening ++ ['['])) text = newText)
    (newParsed : TypeExpr.parseAlternatives newText = .ok newAlternatives)
    {newTypes : TagText}
    (hasTypes : (block.map
      (CommentLine.corrected corrections)).tag.types = some newTypes) :
    newTypes.text.toList = newText := by
  have noBrackets : ∀ c ∈ newText, c ≠ '[' ∧ c ≠ ']' := by
    intro c member
    have typed := typed_of_parsed newParsed member
    constructor
    · rintro rfl
      exact absurd typed (by decide)
    · rintro rfl
      exact absurd typed (by decide)
  have replaced := TagKind.typesCut?_replace found noBrackets
  obtain ⟨_, newBefore, newCut, newFound, rfl⟩ :=
    Tag.types_ofBody_eq_some_iff.mp hasTypes
  rw [TagBlock.directive_map isRead (correctsTypes.sameShape_first isRead),
    correctsTypes.body_map isRead, correctsTypes.chars_map, applied, ← leadEq,
    replaced] at newFound
  obtain ⟨_, rfl⟩ := Prod.mk.inj (Option.some.inj newFound)
  rw [Body.text_textAt, String.toList_ofList]

/-- Correcting a block whose types can be read settles its tag. -/
theorem settled_of_parsed
    (distinct : (declaration.comments.map CommentLine.line).Nodup)
    (canCorrect : settings.CanCorrect declaration)
    {block : TagBlock}
    (isBlock : block ∈ TagBlock.ofComments declaration.comments)
    {types : TagText}
    (hasTypes : block.tag.types = some types)
    {alternatives : List Alternative}
    (parsed : TypeExpr.parseAlternatives types.text.toList =
      .ok alternatives) :
    Settled settings block.tag (block.map (CommentLine.corrected
      (collectionCorrections (settings.check declaration)))).tag := by
  obtain ⟨before, cut, found, insideEq, opening, leadEq, chars, typesEq⟩ :=
    TagBlock.exists_opening hasTypes
  have isRead := TagBlock.isRead_of_mem_ofLines isBlock
  have correctsTypes := correctsTypes_of_parsed distinct canCorrect isBlock
    hasTypes parsed chars typesEq
  obtain ⟨newText, newAlternatives, applied, newParsed, renews⟩ :=
    exists_renewed_of_parsed (Check.isWritten_renewal settings types)
      (nesting_renewal settings types) (byteLength (opening ++ ['['])) parsed
  have newTextOf {newTypes : TagText}
      (newHasTypes : (block.map (CommentLine.corrected
        (collectionCorrections (settings.check declaration)))).tag.types =
          some newTypes) : newTypes.text.toList = newText :=
    correctsTypes.text_types_map isRead found leadEq applied newParsed
      newHasTypes
  have directiveEq :=
    TagBlock.directive_map isRead (correctsTypes.sameShape_first isRead)
  constructor
  · simp [TagBlock.tag, TagBlock.map]
  · rw [TagBlock.tag, TagBlock.tag, Tag.directive_ofBody, Tag.directive_ofBody,
      directiveEq]
  · intro finding member isCollection
    obtain ⟨newTypes, others, new, newHasTypes, othersParsed, newMember,
      complaint, complains, rfl⟩ :=
      Check.exists_of_mem_tagTypes member isCollection
    have textEq := newTextOf newHasTypes
    rw [textEq, newParsed] at othersParsed
    obtain rfl : newAlternatives = others := Except.ok.inj othersParsed
    obtain ⟨old, _, oldRenews⟩ := renews new newMember
    rw [← textEq] at oldRenews
    have notReported := isReported_of_renews oldRenews
    have disabled := List.any_eq_false.mp notReported complaint complains
    exact (Bool.not_eq_true _).mp disabled
  · rw [filter_tagTypes_of_parsed hasTypes parsed]
    cases newHasTypes : (block.map (CommentLine.corrected
      (collectionCorrections (settings.check declaration)))).tag.types with
    | none =>
        rw [Check.tagTypes, newHasTypes]
        rfl
    | some newTypes =>
        rw [← newTextOf newHasTypes] at newParsed
        exact filter_tagTypes_of_parsed newHasTypes newParsed settings.style

/-- A block without types that can be read has no corrections. -/
theorem settled_of_not_parsed
    (distinct : (declaration.comments.map CommentLine.line).Nodup)
    (canCorrect : settings.CanCorrect declaration)
    {block : TagBlock}
    (isBlock : block ∈ TagBlock.ofComments declaration.comments)
    (notParsed : ∀ types alternatives, block.tag.types = some types →
      TypeExpr.parseAlternatives types.text.toList ≠ .ok alternatives) :
    Settled settings block.tag (block.map (CommentLine.corrected
      (collectionCorrections (settings.check declaration)))).tag := by
  have unchanged : block.map (CommentLine.corrected
      (collectionCorrections (settings.check declaration))) = block := by
    apply TagBlock.map_corrected_eq_self (TagBlock.isRead_of_mem_ofLines isBlock)
    intro comment member correction given sameLine
    obtain ⟨other, isOther, types, alternatives, alternative, reportedIn, rfl⟩ :=
      (mem_corrections_iff canCorrect).mp given
    obtain ⟨otherLine, otherMember, otherNumber⟩ :=
      exists_line_of_reportedIn canCorrect isOther reportedIn
    have numbered : comment.line ∈ block.body.lines.map BodyLine.line := by
      rw [TagBlock.map_line_lines]
      exact List.mem_map_of_mem member
    obtain ⟨line, lineMember, lineNumber⟩ := List.mem_map.mp numbered
    obtain rfl := TagBlock.eq_of_line distinct isOther isBlock otherMember
      lineMember (by rw [← otherNumber, sameLine, lineNumber])
    exact notParsed types alternatives reportedIn.hasTypes reportedIn.parsed
  rw [unchanged]
  refine ⟨rfl, rfl, ?_, rfl⟩
  intro finding member isCollection
  obtain ⟨types, alternatives, _, hasTypes, parsed, _⟩ :=
    Check.exists_of_mem_tagTypes member isCollection
  exact absurd parsed (notParsed types alternatives hasTypes)

/-- Correcting a block settles its tag. -/
theorem settled_map
    (distinct : (declaration.comments.map CommentLine.line).Nodup)
    (canCorrect : settings.CanCorrect declaration)
    {block : TagBlock}
    (isBlock : block ∈ TagBlock.ofComments declaration.comments) :
    Settled settings block.tag (block.map (CommentLine.corrected
      (collectionCorrections (settings.check declaration)))).tag := by
  by_cases readable : ∃ types alternatives, block.tag.types = some types ∧
      TypeExpr.parseAlternatives types.text.toList = .ok alternatives
  · obtain ⟨types, alternatives, hasTypes, parsed⟩ := readable
    exact settled_of_parsed distinct canCorrect isBlock hasTypes parsed
  · apply settled_of_not_parsed distinct canCorrect isBlock
    intro types alternatives hasTypes parsed
    exact readable ⟨types, alternatives, hasTypes, parsed⟩

/-- The tags of the corrected comment are settled, one by one. -/
theorem forall₂_settled
    (distinct : (declaration.comments.map CommentLine.line).Nodup)
    (canCorrect : settings.CanCorrect declaration) :
    List.Forall₂ (Settled settings) (Tag.extract declaration.comments)
      (Tag.extract
        (declaration.corrected (settings.check declaration)).comments) := by
  have oldTags := TagBlock.map_tag_ofComments declaration.comments
  have newTags := TagBlock.map_tag_ofComments
    (declaration.corrected (settings.check declaration)).comments
  rw [ofComments_corrected distinct canCorrect] at newTags
  rw [← oldTags, ← newTags]
  apply List.forall₂_map_left_iff.mpr
  apply List.forall₂_map_right_iff.mpr
  apply List.forall₂_map_right_iff.mpr
  apply List.forall₂_same.mpr
  intro block isBlock
  exact settled_map distinct canCorrect isBlock

end Corrected

/-! ## One pass -/

/-- Findings that are settled tag by tag have the same unreadable types. -/
theorem filter_flatMap_of_settled
    {settings : Settings}
    {old new : List Tag}
    (settled : List.Forall₂ (Settled settings) old new) :
    ((new.flatMap (Check.tagTypes settings.style)).filter fun finding =>
        finding.rule == .tagTypeSyntax) =
      (old.flatMap (Check.tagTypes settings.style)).filter fun finding =>
        finding.rule == .tagTypeSyntax := by
  induction settled with
  | nil => rfl
  | cons first _ rest =>
      rw [List.flatMap_cons, List.flatMap_cons, List.filter_append,
        List.filter_append, first.unreadable, rest]

namespace Settings

variable {settings : Settings}
variable {declaration : Declaration}

/-- No finding about collections is left. -/
theorem check_corrected_collections
    (distinct : (declaration.comments.map CommentLine.line).Nodup)
    (canCorrect : settings.CanCorrect declaration) :
    ∀ finding ∈ settings.check
        (declaration.corrected (settings.check declaration)),
      finding.rule.isCollection = false := by
  intro finding member
  by_contra isCollection
  rw [Bool.not_eq_false] at isCollection
  have chosen := List.mem_filter (p := fun finding =>
    finding.rule.isCollection).mpr ⟨member, isCollection⟩
  obtain ⟨newBlock, isNewBlock, original, found, originalIsCollection,
    isEnabled, rfl⟩ := mem_check_iff.mp chosen
  rw [ofComments_corrected distinct canCorrect] at isNewBlock
  obtain ⟨block, isBlock, rfl⟩ := List.mem_map.mp isNewBlock
  have settled := settled_map distinct canCorrect isBlock
  have disabled := settled.collections original found originalIsCollection
  rw [disabled] at isEnabled
  exact absurd isEnabled (by simp)

/-- The findings for types that cannot be read stay. -/
theorem check_corrected_unreadable
    (distinct : (declaration.comments.map CommentLine.line).Nodup)
    (canCorrect : settings.CanCorrect declaration) :
    ((settings.check (declaration.corrected
        (settings.check declaration))).filter
      fun finding => finding.rule == .tagTypeSyntax) =
      (settings.check declaration).filter
        fun finding => finding.rule == .tagTypeSyntax := by
  have aboutTypes (rule : Rule) (chosen : (rule == .tagTypeSyntax) = true) :
      rule.isAboutTypes = true := by
    rw [Rule.isAboutTypes, chosen, Bool.or_true]
  have same := filter_flatMap_of_settled (forall₂_settled distinct canCorrect)
  rw [settings.filter_check _ aboutTypes, settings.filter_check _ aboutTypes]
  simp only [← List.filter_filter]
  rw [List.filter_comm, same, List.filter_comm]

end Settings

/-- The corrections of all findings about collections, made at once in a comment
whose lines have different numbers, leave no finding about collections.  The
tags stay the same up to their texts, and types that could be read can be read
afterwards. -/
theorem check_corrected
    (config : Config)
    (declaration : Declaration)
    (distinct : (declaration.comments.map CommentLine.line).Nodup)
    (correctable : ∀ finding ∈ (Checker.mk config none).check declaration,
      finding.rule.isCollection = true → finding.correction.isSome = true) :
    (∀ finding ∈ (Checker.mk config none).check (declaration.corrected
        ((Checker.mk config none).check declaration)),
      finding.rule.isCollection = false) ∧
    List.Forall₂ (fun old new => new.lineIndex = old.lineIndex ∧
        new.directive = old.directive ∧
        (new.IsUnreadable config.style → old.IsUnreadable config.style))
      (Tag.extract declaration.comments)
      (Tag.extract (declaration.corrected
        ((Checker.mk config none).check declaration)).comments) ∧
    (((Checker.mk config none).check (declaration.corrected
        ((Checker.mk config none).check declaration))).filter
      fun finding => finding.rule == .tagTypeSyntax) =
      ((Checker.mk config none).check declaration).filter
        fun finding => finding.rule == .tagTypeSyntax := by
  have canCorrect : (Settings.resolve config).CanCorrect declaration :=
    correctable
  have settled := forall₂_settled distinct canCorrect
  refine ⟨?_, ?_, ?_⟩
  · exact Settings.check_corrected_collections distinct canCorrect
  · refine settled.imp ?_
    intro old new settledTag
    exact ⟨settledTag.lineIndex, settledTag.directive,
      settledTag.isUnreadable⟩
  · exact Settings.check_corrected_unreadable distinct canCorrect

/-! ## Several types to correct -/

/-- A method whose types are to be corrected: two of them on one line behind a
character of two bytes, one on a further line, and one in a list that is left
open. -/
def severalTypes : Declaration where
  kind := .method
  name := "merge"
  line := 6
  column := 2
  parameters := [⟨some "x", .required, none⟩]
  comments :=
    [⟨3, 2, "# @param [Array(é), Hash<A, B>;", true⟩,
      ⟨4, 2, "#   Array{C => D}] x", true⟩,
      ⟨5, 2, "# @return [Hash<E, (F)>", true⟩]

/-- What is found there in the short style. -/
def severalFindings : List Finding :=
  (Checker.mk { style := .short } none).check severalTypes

/-- All four types are corrected at once, and nothing about collections is found
in the corrected comment. -/
theorem check_corrected_several_types :
    (severalTypes.comments.map CommentLine.line).Nodup ∧
      (∀ finding ∈ severalFindings,
        finding.rule.isCollection = true → finding.correction.isSome = true) ∧
      ((severalTypes.corrected severalFindings).comments.map
          CommentLine.text =
        ["# @param [(é), {A => B};", "#   {C => D}] x",
          "# @return [{E => (F)}"]) ∧
      (∀ finding ∈ (Checker.mk { style := .short } none).check
          (severalTypes.corrected severalFindings),
        finding.rule.isCollection = false) := by
  have distinct : (severalTypes.comments.map CommentLine.line).Nodup := by
    decide
  have correctable : ∀ finding ∈ severalFindings,
      finding.rule.isCollection = true →
        finding.correction.isSome = true := by
    decide +kernel
  refine ⟨distinct, correctable, by decide +kernel, ?_⟩
  exact (check_corrected { style := .short } severalTypes distinct
    correctable).1

end DocLint
