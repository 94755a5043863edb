import DocLint.Check.TagTypes
import DocLint.Proofs.Arrangement
import DocLint.Proofs.TagBlocks
import DocLint.Proofs.TypeList

/-!
# Where corrections stand

A finding about an alternative has a correction exactly if the alternative
crosses no break between two comment lines.  The span of the correction is then
the place of the alternative's own text in one leading comment line; otherwise
the span of the finding goes from the alternative's first byte to the end of its
line.
-/

namespace DocLint

open Text

namespace Check

/-! ## The findings for an alternative -/

/-- The finding for an alternative, with a correction if it is on one line. -/
def reported
    (types : TagText)
    (style : Style)
    (alternative : Alternative)
    (rule : Rule)
    (message : String) : Finding where
  rule := rule
  message := message
  span := alternativeSpan types alternative
  severity := rule.defaultSeverity
  correction :=
    if (types.locate? alternative.start alternative.stop).isSome then
      some ⟨alternativeSpan types alternative,
        correctedText style alternative⟩
    else none

section Reported

variable {types : TagText}
variable {alternative : Alternative}

theorem span_reported
    (style : Style)
    (rule : Rule)
    (message : String) :
    (reported types style alternative rule message).span =
      alternativeSpan types alternative := rfl

theorem correction_reported_of_located
    (located : (types.locate? alternative.start
      alternative.stop).isSome = true)
    (style : Style)
    (rule : Rule)
    (message : String) :
    (reported types style alternative rule message).correction =
      some ⟨alternativeSpan types alternative,
        correctedText style alternative⟩ :=
  if_pos located

theorem correction_reported_of_not_located
    (notLocated : ¬ (types.locate? alternative.start
      alternative.stop).isSome = true)
    (style : Style)
    (rule : Rule)
    (message : String) :
    (reported types style alternative rule message).correction = none :=
  if_neg notLocated

end Reported

/-- The messages for an alternative, with the rules that it breaks. -/
def complaints
    (style : Style)
    (raw : List Char)
    (type : TypeExpr) : List (Rule × String) :=
  (type.mismatches.map fun mismatch =>
      (Rule.collectionType, mismatch.1.message)) ++
    if sameIgnoringBlanks raw (type.chars style) then []
    else
      [(.collectionStyle, "`" ++ String.ofList raw ++ "` is using " ++
        style.opposite.word ++ " style syntax")]

theorem alternativeFindings_eq
    (types : TagText)
    (style : Style)
    (alternative : Alternative) :
    alternativeFindings types style alternative =
      (complaints style (rawText types alternative) alternative.type).map
        fun complaint =>
          reported types style alternative complaint.1 complaint.2 := by
  have report (rule : Rule) (message : String) :
      (if (types.locate? alternative.start alternative.stop).isSome then
        (Finding.of rule message (alternativeSpan types alternative)).replacedBy
          (correctedText style alternative)
      else Finding.of rule message (alternativeSpan types alternative)) =
        reported types style alternative rule message := by
    unfold reported
    split <;> rfl
  rw [alternativeFindings, complaints]
  simp only [report, List.map_append, List.map_map]
  congr 1
  split <;> rfl

end Check

/-! ## The place of an alternative -/

namespace Body

/-- The byte at a position of a body's text is the byte at a column of a source
line. -/
def IsByteAt
    (body : Body)
    (position line column : Nat) : Prop :=
  ∃ earlier found later left right,
    body.lines = earlier ++ found :: later ∧
    found.chars = left ++ right ∧ right ≠ [] ∧
    position = byteLength (joined earlier ++ left) ∧
    line = found.line ∧ column = found.column + byteLength left

/-- A stretch of a body's text that holds a break between two lines. -/
def Crosses
    (body : Body)
    (start stop : Nat) : Prop :=
  ∃ join, body.IsJoin join ∧ start ≤ join ∧ join < stop

section Alternatives

variable {body : Body}
variable {before text after raw : List Char}
variable {alternative : Alternative}

theorem isBlank_break : isBlank '\n' = true := by
  decide

/-- The text of an alternative does not start with a break. -/
theorem head_of_writes
    {type : TypeExpr}
    (writes : Writes raw type) :
    ∃ c, raw.head? = some c ∧ c ≠ '\n' := by
  obtain ⟨c, head, notBlank⟩ := writes.tight.head
  refine ⟨c, head, ?_⟩
  rintro rfl
  rw [isBlank_break] at notBlank
  exact absurd notBlank (by simp)

/-- An alternative stands on one line, where it is found, or crosses the end of
its first line and is found nowhere. -/
theorem locate?_cases
    (chars : body.chars = before ++ text ++ after)
    (standsOn : StandsOn 0 text raw alternative)
    (writes : Writes raw alternative.type) :
    (∃ earlier line later left right,
      body.lines = earlier ++ line :: later ∧
      line.chars = left ++ raw ++ right ∧
      byteLength before + alternative.start =
        byteLength (joined earlier ++ left) ∧
      (body.textAt before text).locate? alternative.start alternative.stop =
        some ⟨line.line, line.column + byteLength left,
          line.column + byteLength left + byteLength raw⟩) ∨
    (∃ earlier line next later left right rest,
      body.lines = earlier ++ line :: next :: later ∧
      line.chars = left ++ right ∧ right ≠ [] ∧
      raw = right ++ '\n' :: rest ∧
      byteLength before + alternative.start =
        byteLength (joined earlier ++ left) ∧
      (body.textAt before text).locate? alternative.start alternative.stop =
        none ∧
      (body.textAt before text).locateToLineEnd alternative.start =
        ⟨line.line, line.column + byteLength left,
          line.column + byteLength line.chars⟩) := by
  obtain ⟨⟨front, back, textEq, start⟩, stop⟩ := standsOn
  obtain ⟨c, head, notBreak⟩ := head_of_writes writes
  have nonempty : 0 < byteLength raw := by
    apply byteLength_pos
    rintro rfl
    exact absurd head (by simp)
  have inText : byteLength text =
      byteLength front + byteLength raw + byteLength back := by
    rw [textEq, byteLength_append, byteLength_append]
  have positionOf {lines : List BodyLine} {left : List Char}
      (position : before ++ front = joined lines ++ left) :
      byteLength before + alternative.start =
        byteLength (joined lines) + byteLength left := by
    have lengths := congrArg byteLength position
    rw [byteLength_append, byteLength_append] at lengths
    omega
  rcases stretch_cases chars textEq head notBreak with
    ⟨earlier, line, later, left, right, split, lineEq, position⟩ |
    ⟨earlier, line, next, later, left, right, rest, split, lineEq, rightNonempty,
      rawEq, position⟩
  · have positions := positionOf position
    have lineLength := congrArg byteLength lineEq
    rw [byteLength_append, byteLength_append] at lineLength
    refine Or.inl ⟨earlier, line, later, left, right, split, lineEq, ?_, ?_⟩
    · rw [byteLength_append, positions]
    · rw [locate?_textAt split positions (by omega) (by omega) (by omega), stop,
        Nat.add_sub_cancel_left]
  · have positions := positionOf position
    have lineLength := congrArg byteLength lineEq
    have rawLength := congrArg byteLength rawEq
    have rightLength := byteLength_pos rightNonempty
    rw [byteLength_append] at lineLength
    rw [byteLength_append, byteLength_cons, break_size] at rawLength
    refine Or.inr ⟨earlier, line, next, later, left, right, rest, split, lineEq,
      rightNonempty, rawEq, ?_, ?_⟩
    · rw [byteLength_append, positions]
    · exact locate?_textAt_eq_none split positions (by omega) (by omega)
        (by omega)

/-- An alternative is found on a line exactly if it crosses no break. -/
theorem locate?_isSome_iff
    (chars : body.chars = before ++ text ++ after)
    (standsOn : StandsOn 0 text raw alternative)
    (writes : Writes raw alternative.type) :
    ((body.textAt before text).locate? alternative.start
        alternative.stop).isSome = true ↔
      ¬ body.Crosses (byteLength before + alternative.start)
        (byteLength before + alternative.stop) := by
  have stop := standsOn.stop
  rcases locate?_cases chars standsOn writes with
    ⟨earlier, line, later, left, right, split, lineEq, position, found⟩ |
    ⟨earlier, line, next, later, left, right, rest, split, lineEq, _, rawEq,
      position, found, _⟩
  · have lineLength := congrArg byteLength lineEq
    rw [byteLength_append, byteLength_append] at lineLength
    rw [byteLength_append] at position
    simp only [found, Option.isSome_some, true_iff]
    rintro ⟨join, isJoin, lower, upper⟩
    exact not_isJoin split (by omega) (by omega) isJoin
  · have rawLength := congrArg byteLength rawEq
    rw [byteLength_append, byteLength_cons, break_size] at rawLength
    rw [byteLength_append] at position
    simp only [found, Option.isSome_none, Bool.false_eq_true, false_iff,
      Classical.not_not]
    refine ⟨_, ⟨earlier, line, next, later, split, rfl⟩, ?_, ?_⟩
    · rw [lineEq, byteLength_append, byteLength_append]
      omega
    · rw [lineEq, byteLength_append, byteLength_append]
      omega

end Alternatives

end Body
/-! ## The spans of findings -/

/-- The bytes of a span are this part of a comment line's text. -/
def CommentLine.HasAt
    (comment : CommentLine)
    (part : List Char)
    (span : Span) : Prop :=
  ∃ left right, comment.text.toList = left ++ part ++ right ∧
    span = ⟨comment.line, comment.column + byteLength left,
      comment.column + byteLength left + byteLength part⟩

/-- A part of a body line is a part of the comment line that it ends. -/
theorem BodyLine.IsEndOf.hasAt
    {line : BodyLine}
    {comment : CommentLine}
    (isEndOf : line.IsEndOf comment)
    {left part right : List Char}
    (chars : line.chars = left ++ part ++ right) :
    comment.HasAt part ⟨line.line, line.column + byteLength left,
      line.column + byteLength left + byteLength part⟩ := by
  obtain ⟨lineEq, front, text, column⟩ := isEndOf
  refine ⟨front ++ left, right, by simp [text, chars], ?_⟩
  rw [lineEq, column, byteLength_append]
  simp only [Nat.add_assoc]

/-- Every line of a block's body is the end of a leading comment line. -/
theorem TagBlock.exists_isEndOf
    {comments : List CommentLine}
    {block : TagBlock}
    (member : block ∈ ofComments comments)
    {line : BodyLine}
    (lineMember : line ∈ block.body.lines) :
    ∃ comment ∈ comments, comment.leading = true ∧ line.IsEndOf comment := by
  obtain ⟨comment, inBlock, isEndOf⟩ :=
    (isRead_of_mem_ofLines member).exists_isEndOf lineMember
  obtain ⟨inComments, leading⟩ := mem_of_mem_ofComments member inBlock
  exact ⟨comment, inComments, leading, isEndOf⟩

namespace Check

/-- The text of an alternative as written is the text that it stands on. -/
theorem rawText_eq
    {types : TagText}
    {raw : List Char}
    {alternative : Alternative}
    (standsOn : StandsOn 0 types.text.toList raw alternative) :
    rawText types alternative = raw := by
  obtain ⟨⟨front, back, textEq, start⟩, stop⟩ := standsOn
  rw [rawText, stop, start, Nat.zero_add, textEq, slice_append]

section Spans

variable {types : TagText}
variable {alternative : Alternative}
variable {line start length : Nat}

theorem alternativeSpan_of_located
    (found : types.locate? alternative.start alternative.stop =
      some ⟨line, start, start + length⟩) :
    alternativeSpan types alternative = ⟨line, start, start + length⟩ := by
  rw [alternativeSpan, found, Option.getD_some, Span.ofPlace, Span.between,
    Nat.max_eq_left (Nat.le_add_right start length)]

theorem alternativeSpan_of_crossing
    (notFound : types.locate? alternative.start alternative.stop = none)
    (found : types.locateToLineEnd alternative.start =
      ⟨line, start, start + length⟩) :
    alternativeSpan types alternative = ⟨line, start, start + length⟩ := by
  rw [alternativeSpan, notFound, Option.getD_none, found, Span.ofPlace,
    Span.between, Nat.max_eq_left (Nat.le_add_right start length)]

end Spans

/-- The types of a tag that can be read are reported by alternatives. -/
theorem tagTypes_of_parsed
    {block : TagBlock}
    {types : TagText}
    (hasTypes : block.tag.types = some types)
    {alternatives : List Alternative}
    (parsed : TypeExpr.parseAlternatives types.text.toList = .ok alternatives)
    (style : Style) :
    tagTypes style block.tag =
      alternatives.flatMap (alternativeFindings types style) := by
  have isTyped : block.tag.kind.isTyped = true := Tag.isTyped_of_types hasTypes
  simp only [tagTypes, hasTypes, isTyped, if_true, parsed]

end Check

/-- A tag is the tag of one of the blocks of its comment. -/
theorem TagBlock.exists_of_mem_extract
    {comments : List CommentLine}
    {tag : Tag}
    (member : tag ∈ Tag.extract comments) :
    ∃ block ∈ ofComments comments, block.tag = tag := by
  rw [← map_tag_ofComments] at member
  exact List.mem_map.mp member

/-- The types of a block's tag stand behind an opening bracket of its body. -/
theorem TagBlock.exists_opening
    {block : TagBlock}
    {types : TagText}
    (hasTypes : block.tag.types = some types) :
    ∃ before cut,
      (TagKind.ofDirective (String.ofList block.cut.directive)).typesCut?
        block.body.chars = some (before, cut) ∧
      types.text.toList = cut.inside ∧
      ∃ opening, before ++ cut.lead = opening ++ ['['] ∧
        block.body.chars = opening ++ ['['] ++ types.text.toList ++
          TypeListCut.closing cut.after ∧
        block.body.textAt (opening ++ ['[']) types.text.toList = types := by
  obtain ⟨_, before, cut, found, rfl⟩ :=
    Tag.types_ofBody_eq_some_iff.mp hasTypes
  have leadEq : before ++ cut.lead =
      (before ++ (cut.blanks ++ cut.word ++ cut.gap)) ++ ['['] := by
    rw [TypeListCut.lead, List.append_assoc before]
  have inside : (block.body.textAt (before ++ cut.lead)
      cut.inside).text.toList = cut.inside := by
    rw [Body.text_textAt, String.toList_ofList]
  refine ⟨before, cut, found, inside, _, leadEq, ?_, ?_⟩
  · rw [inside, ← leadEq]
    exact TagKind.chars_of_typesCut? found
  · rw [inside, ← leadEq]

/-- The types of a block's tag stand in the text of its body. -/
theorem TagBlock.exists_cut
    {block : TagBlock}
    {types : TagText}
    (hasTypes : block.tag.types = some types) :
    ∃ before after,
      block.body.chars = before ++ types.text.toList ++ after ∧
      block.body.textAt before types.text.toList = types := by
  obtain ⟨_, cut, _, _, opening, _, chars, typesEq⟩ :=
    TagBlock.exists_opening hasTypes
  exact ⟨opening ++ ['['], TypeListCut.closing cut.after, chars, typesEq⟩

/-! ## Findings about alternatives are placed -/

/-- Where the finding for an alternative of some types stands, when the types
start at a byte position of a body. -/
structure IsPlaced
    (comments : List CommentLine)
    (body : Body)
    (position : Nat)
    (types : TagText)
    (alternative : Alternative)
    (finding : Finding) : Prop where
  /-- The finding starts at the first byte of the alternative. -/
  start : body.IsByteAt (position + alternative.start)
    finding.span.line finding.span.startColumn
  /-- A correction is there exactly if no break is crossed. -/
  correctable : finding.correction.isSome = true ↔
    ¬ body.Crosses (position + alternative.start) (position + alternative.stop)
  /-- A correction replaces the text of the alternative. -/
  corrected : ∀ correction, finding.correction = some correction →
    correction.span = finding.span ∧
    ∃ comment ∈ comments, comment.leading = true ∧
      comment.HasAt (Check.rawText types alternative) correction.span
  /-- Without a correction the finding goes to the end of its line. -/
  cut : finding.correction = none →
    ∃ comment ∈ comments, comment.leading = true ∧
      ∃ left part rest, comment.text.toList = left ++ part ∧
        Check.rawText types alternative = part ++ '\n' :: rest ∧
        finding.span = ⟨comment.line, comment.column + byteLength left,
          comment.endColumn⟩

section Placed

variable {comments : List CommentLine}
variable {block : TagBlock}
variable {types : TagText}
variable {before after raw : List Char}
variable {alternative : Alternative}

/-- Every finding that is reported for an alternative is placed. -/
theorem isPlaced_reported
    (member : block ∈ TagBlock.ofComments comments)
    (chars : block.body.chars = before ++ types.text.toList ++ after)
    (typesEq : block.body.textAt before types.text.toList = types)
    (standsOn : StandsOn 0 types.text.toList raw alternative)
    (writes : Writes raw alternative.type)
    (style : Style)
    (rule : Rule)
    (message : String) :
    IsPlaced comments block.body (byteLength before) types alternative
      (Check.reported types style alternative rule message) := by
  have located := Body.locate?_isSome_iff chars standsOn writes
  have cases := Body.locate?_cases chars standsOn writes
  rw [typesEq] at located cases
  rcases cases with
    ⟨earlier, line, later, left, right, split, lineEq, position, found⟩ |
    ⟨earlier, line, next, later, left, right, rest, split, lineEq,
      rightNonempty, rawEq, position, notFound, found⟩
  · have isSome : (types.locate? alternative.start
        alternative.stop).isSome = true := by
      rw [found]
      rfl
    have spanEq := Check.alternativeSpan_of_located found
    have correctionEq :=
      Check.correction_reported_of_located isSome style rule message
    obtain ⟨comment, inComments, leading, isEndOf⟩ :=
      TagBlock.exists_isEndOf member
        (show line ∈ block.body.lines by simp [split])
    constructor
    · rw [Check.span_reported, spanEq]
      refine ⟨earlier, line, later, left, raw ++ right, split, ?_, ?_, position,
        rfl, rfl⟩
      · rw [lineEq, List.append_assoc]
      · exact List.append_ne_nil_of_left_ne_nil writes.ne_nil right
    · rw [correctionEq, ← located, isSome, Option.isSome_some]
    · intro correction given
      rw [correctionEq] at given
      cases given
      rw [Check.span_reported, Check.rawText_eq standsOn, spanEq]
      exact ⟨rfl, comment, inComments, leading, isEndOf.hasAt lineEq⟩
    · intro absent
      rw [correctionEq] at absent
      exact absurd absent (by simp)
  · have isNone : ¬ (types.locate? alternative.start
        alternative.stop).isSome = true := by
      rw [notFound]
      simp
    rw [lineEq, byteLength_append, ← Nat.add_assoc] at found
    have spanEq := Check.alternativeSpan_of_crossing notFound found
    have correctionEq :=
      Check.correction_reported_of_not_located isNone style rule message
    obtain ⟨comment, inComments, leading, isEndOf⟩ :=
      TagBlock.exists_isEndOf member
        (show line ∈ block.body.lines by simp [split])
    constructor
    · rw [Check.span_reported, spanEq]
      exact ⟨earlier, line, next :: later, left, right, split, lineEq,
        rightNonempty, position, rfl, rfl⟩
    · rw [correctionEq, ← located, Option.isSome_none, Bool.false_eq_true,
        false_iff]
      exact isNone
    · intro correction given
      rw [correctionEq] at given
      exact absurd given (by simp)
    · intro _
      obtain ⟨lineNumber, front, text, column⟩ := isEndOf
      refine ⟨comment, inComments, leading, front ++ left, right, rest, ?_, ?_,
        ?_⟩
      · rw [text, lineEq, List.append_assoc]
      · rw [Check.rawText_eq standsOn, rawEq]
      · rw [Check.span_reported, spanEq, lineNumber, column,
          CommentLine.endColumn, text, lineEq]
        simp only [byteLength_append, Nat.add_assoc]

end Placed

/-- The findings for the types of a tag are those for its alternatives.  Each of
them has a correction exactly if its alternative crosses no break between two
comment lines; the correction replaces the text of the alternative on one
leading line.  Without a correction the finding goes from the first byte of the
alternative to the end of its line. -/
theorem isPlaced_alternativeFindings
    {comments : List CommentLine}
    {tag : Tag}
    (member : tag ∈ Tag.extract comments)
    {types : TagText}
    (hasTypes : tag.types = some types)
    {alternatives : List Alternative}
    (parsed : TypeExpr.parseAlternatives types.text.toList = .ok alternatives)
    (style : Style) :
    Check.tagTypes style tag =
        alternatives.flatMap (Check.alternativeFindings types style) ∧
      ∃ block ∈ TagBlock.ofComments comments, ∃ before after,
        block.tag = tag ∧
        block.body.chars = before ++ types.text.toList ++ after ∧
        block.body.textAt before types.text.toList = types ∧
        ∀ alternative ∈ alternatives,
        ∀ finding ∈ Check.alternativeFindings types style alternative,
          IsPlaced comments block.body (byteLength before) types alternative
            finding := by
  obtain ⟨block, blockMember, rfl⟩ := TagBlock.exists_of_mem_extract member
  refine ⟨Check.tagTypes_of_parsed hasTypes parsed style, block, blockMember, ?_⟩
  obtain ⟨before, after, chars, typesEq⟩ := TagBlock.exists_cut hasTypes
  refine ⟨before, after, rfl, chars, typesEq, ?_⟩
  intro alternative isAlternative finding reports
  obtain ⟨raw, standsOn, writes⟩ := exists_raw_of_parsed parsed isAlternative
  rw [Check.alternativeFindings_eq] at reports
  obtain ⟨⟨rule, message⟩, _, rfl⟩ := List.mem_map.mp reports
  exact isPlaced_reported blockMember chars typesEq standsOn writes style rule
    message

/-! ## Types on two lines -/

/-- A comment whose types go on over two lines. -/
def twoLines : List CommentLine :=
  [⟨3, 2, "# @param [Array(é), Hash<A,", true⟩, ⟨4, 2, "#   B>] x", true⟩]

/-- The types of that comment. -/
def twoLineTypes : TagText :=
  ⟨"Array(é), Hash<A,\n  B>", ⟨0, 18, 3, 12⟩, [⟨19, 4, 4, 4⟩]⟩

/-- What the findings for some alternatives of these types correct. -/
def twoLineCorrections
    (alternatives : List Alternative) : List (Option Correction) :=
  (alternatives.flatMap
    (Check.alternativeFindings twoLineTypes .short)).map Finding.correction

/-- Of two alternatives the first stands on one line and is corrected there; the
second goes on over two lines and is not. -/
theorem isPlaced_alternativeFindings_two_lines :
    (Tag.extract twoLines).map Tag.types = [some twoLineTypes] ∧
      ∃ alternatives,
        TypeExpr.parseAlternatives twoLineTypes.text.toList =
          .ok alternatives ∧
        twoLineCorrections alternatives =
          [some ⟨⟨3, 12, 21⟩, "(é)"⟩, none] ∧
        ∃ block ∈ TagBlock.ofComments twoLines, ∃ before after,
          block.body.chars = before ++ twoLineTypes.text.toList ++ after ∧
          ∀ alternative ∈ alternatives,
          ∀ finding ∈ Check.alternativeFindings twoLineTypes .short alternative,
            IsPlaced twoLines block.body (byteLength before) twoLineTypes
              alternative finding := by
  have extracted : (Tag.extract twoLines).map Tag.types =
      [some twoLineTypes] := by
    decide +kernel
  have corrected : (TypeExpr.parseAlternatives
      twoLineTypes.text.toList).toOption.map twoLineCorrections =
        some [some ⟨⟨3, 12, 21⟩, "(é)"⟩, none] := by
    decide +kernel
  obtain ⟨tag, member, hasTypes⟩ : ∃ tag ∈ Tag.extract twoLines,
      tag.types = some twoLineTypes := by
    apply List.mem_map.mp
    rw [extracted]
    exact List.mem_singleton.mpr rfl
  refine ⟨extracted, ?_⟩
  cases parsed : TypeExpr.parseAlternatives twoLineTypes.text.toList with
  | error _ =>
      rw [parsed] at corrected
      exact absurd corrected (by simp [Except.toOption])
  | ok alternatives =>
      rw [parsed] at corrected
      obtain ⟨_, block, blockMember, before, after, _, chars, _, placed⟩ :=
        isPlaced_alternativeFindings member hasTypes parsed .short
      exact ⟨alternatives, rfl, Option.some.inj corrected, block, blockMember,
        before, after, chars, placed⟩

end DocLint
