import DocLint.Proofs.CommentShape
import Mathlib.Data.List.Forall2
import Mathlib.Data.List.Sort

/-!
# Which tags a comment has

The tags of a comment are told from the comment alone, without reading it line
by line: a tag starts on every leading line with an at sign and a directive
behind its marker and its indentation, the directive is the longest one there,
and the text of the tag goes on over the longest run of deeper lines that
follow.  The list of tags is the only one that fits this description, with one
entry for each such line in the order of the lines.
-/

namespace DocLint

open Text

/-! ## Directives -/

/-- The name of a tag: a letter or an underscore, perhaps behind an exclamation
mark, and any further characters of directives. -/
inductive IsDirective : List Char → Prop
  | plain {first : Char} {rest : List Char} :
      isDirectiveStart first = true →
      (∀ c ∈ rest, isDirectiveChar c = true) →
      IsDirective (first :: rest)
  | marked {first : Char} {rest : List Char} :
      isDirectiveStart first = true →
      (∀ c ∈ rest, isDirectiveChar c = true) →
      IsDirective ('!' :: first :: rest)

/-- The longest directive that a text starts with. -/
structure IsLongestDirective (directive text : List Char) : Prop where
  isDirective : IsDirective directive
  starts : directive <+: text
  longest : ∀ other, IsDirective other → other <+: text →
    other.length ≤ directive.length

namespace IsDirective

/-- A character of directives makes a directive longer. -/
theorem concat
    {directive : List Char}
    (isDirective : IsDirective directive)
    {c : Char}
    (isChar : isDirectiveChar c = true) :
    IsDirective (directive ++ [c]) := by
  have further {rest : List Char}
      (restChars : ∀ d ∈ rest, isDirectiveChar d = true) :
      ∀ d ∈ rest ++ [c], isDirectiveChar d = true := by
    intro d member
    rcases List.mem_append.mp member with inRest | isLast
    · exact restChars d inRest
    · obtain rfl := List.mem_singleton.mp isLast
      exact isChar
  cases isDirective with
  | plain starts restChars => exact .plain starts (further restChars)
  | marked starts restChars => exact .marked starts (further restChars)

/-- What makes a directive longer are characters of directives. -/
theorem isDirectiveChar_of_append
    {directive more : List Char}
    (isDirective : IsDirective directive)
    (longer : IsDirective (directive ++ more)) :
    ∀ c ∈ more, isDirectiveChar c = true := by
  intro c member
  cases isDirective with
  | @plain first rest starts _ =>
      generalize whole : first :: rest ++ more = text at longer
      cases longer with
      | plain _ chars =>
          obtain ⟨_, rfl⟩ := List.cons.inj whole
          exact chars c (List.mem_append_right rest member)
      | marked =>
          exact absurd (List.cons.inj whole).1 (isDirectiveStart_ne starts)
  | @marked first rest starts _ =>
      generalize whole : '!' :: first :: rest ++ more = text at longer
      cases longer with
      | plain marks _ =>
          exact absurd (List.cons.inj whole).1.symm (isDirectiveStart_ne marks)
      | marked _ chars =>
          obtain ⟨_, rfl⟩ := List.cons.inj (List.cons.inj whole).2
          exact chars c (List.mem_append_right rest member)

end IsDirective

/-- A directive is the longest one exactly if no further character of directives
follows. -/
theorem isLongestDirective_iff
    {directive after : List Char} :
    IsLongestDirective directive (directive ++ after) ↔
      IsDirective directive ∧ StartsOutside isDirectiveChar after := by
  constructor
  · rintro ⟨isDirective, _, longest⟩
    refine ⟨isDirective, ?_⟩
    intro c head
    obtain ⟨more, rfl⟩ := List.head?_eq_some_iff.mp head
    by_contra isChar
    have longer := longest (directive ++ [c])
      (isDirective.concat ((Bool.not_eq_false _).mp isChar))
      ⟨more, by simp⟩
    rw [List.length_append, List.length_singleton] at longer
    omega
  · rintro ⟨isDirective, outside⟩
    refine ⟨isDirective, List.prefix_append _ _, ?_⟩
    intro other isOther starts
    by_contra notLonger
    have isLonger : directive <+: other :=
      List.prefix_of_prefix_length_le (List.prefix_append _ _) starts
        (Nat.le_of_not_le notLonger)
    obtain ⟨more, rfl⟩ := isLonger
    cases more with
    | nil => exact notLonger (by simp)
    | cons c more =>
        have isChar := isDirective.isDirectiveChar_of_append isOther c
          List.mem_cons_self
        obtain ⟨rest, restEq⟩ :=
          (List.prefix_append_right_inj directive).mp starts
        have notChar := outside c (by rw [← restEq]; rfl)
        exact absurd (isChar.symm.trans notChar) (by simp)

/-- A text is cut behind the longest directive that it starts with. -/
theorem cutDirective?_eq_some_iff_isLongestDirective
    {text directive after : List Char} :
    cutDirective? text = some (directive, after) ↔
      text = directive ++ after ∧ IsLongestDirective directive text := by
  rw [cutDirective?_eq_some_iff]
  constructor
  · rintro ⟨c, word, starts, shape, wordChars, outside, rfl⟩
    refine ⟨rfl, isLongestDirective_iff.mpr ⟨?_, outside⟩⟩
    rcases shape with rfl | rfl
    · exact .plain starts wordChars
    · exact .marked starts wordChars
  · rintro ⟨rfl, isLongest⟩
    obtain ⟨isDirective, outside⟩ := isLongestDirective_iff.mp isLongest
    cases isDirective with
    | plain starts wordChars =>
        exact ⟨_, _, starts, Or.inl rfl, wordChars, outside, rfl⟩
    | marked starts wordChars =>
        exact ⟨_, _, starts, Or.inr rfl, wordChars, outside, rfl⟩

/-- A text with a directive at its start is cut behind one. -/
theorem cutDirective?_isSome
    {directive : List Char}
    (isDirective : IsDirective directive)
    (after : List Char) :
    (cutDirective? (directive ++ after)).isSome = true := by
  cases isDirective with
  | @plain first rest starts _ =>
      have notMark := isDirectiveStart_ne starts
      rw [List.cons_append]
      unfold cutDirective?
      split
      · rename_i given
        exact absurd (List.cons.inj given).1 notMark
      · rename_i given
        obtain ⟨rfl, _⟩ := List.cons.inj given
        rw [if_pos starts]
        rfl
      · rename_i given
        exact absurd given (by simp)
  | marked starts _ =>
      rw [List.cons_append, List.cons_append, cutDirective?, if_pos starts]
      rfl

/-! ## Comment lines -/

namespace CommentLine

/-- The content of a line: what stands behind the blanks in front of it, a
number sign and one space, as far as they are there. -/
def HasContent (comment : CommentLine) (content : List Char) : Prop :=
  ∃ marker, IsMarked marker content ∧
    comment.text.toList = marker ++ content

/-- A tag starts on a line whose content has, behind its indentation, an at sign
and a directive. -/
def StartsTag (comment : CommentLine) : Prop :=
  ∃ content directive after, comment.HasContent content ∧
    trimStart content = '@' :: (directive ++ after) ∧ IsDirective directive

/-- A line goes on with a tag that is indented by some bytes: no tag starts on
it, it is not blank, and it is indented deeper. -/
structure GoesOn
    (indent : Nat)
    (comment : CommentLine)
    (content : List Char) : Prop where
  hasContent : comment.HasContent content
  noTag : ¬ comment.StartsTag
  notBlank : ∃ c ∈ content, isBlank c = false
  deeper : indent < byteLength (leadingBlanks content)

variable {comment : CommentLine}
variable {content : List Char}

theorem hasContent_iff :
    comment.HasContent content ↔ content = comment.content := by
  constructor
  · rintro ⟨marker, isMarked, text⟩
    rw [CommentLine.content, cut_of_isMarked isMarked text]
  · rintro rfl
    exact ⟨comment.marker, comment.isMarked, comment.marker_append_content.symm⟩

/-- A line is cut at its directive behind the indentation of its content. -/
theorem directive?_eq_some_iff_isLongestDirective
    {cut : DirectiveCut} :
    comment.directive? = some cut ↔
      cut.indentation = leadingBlanks comment.content ∧
      trimStart comment.content = '@' :: (cut.directive ++ cut.after) ∧
      IsLongestDirective cut.directive (cut.directive ++ cut.after) := by
  rw [directive?_eq_some_iff]
  constructor
  · rintro ⟨rest, behind, found, indentation⟩
    obtain ⟨rfl, isLongest⟩ :=
      cutDirective?_eq_some_iff_isLongestDirective.mp found
    exact ⟨indentation, behind, isLongest⟩
  · rintro ⟨indentation, behind, isLongest⟩
    exact ⟨_, behind,
      cutDirective?_eq_some_iff_isLongestDirective.mpr ⟨rfl, isLongest⟩,
      indentation⟩

theorem directive?_isSome_iff :
    comment.directive?.isSome = true ↔ comment.StartsTag := by
  constructor
  · intro found
    obtain ⟨cut, directive⟩ := Option.isSome_iff_exists.mp found
    obtain ⟨_, behind, isLongest⟩ :=
      directive?_eq_some_iff_isLongestDirective.mp directive
    exact ⟨comment.content, cut.directive, cut.after, hasContent_iff.mpr rfl,
      behind, isLongest.isDirective⟩
  · rintro ⟨content, directive, after, hasContent, behind, isDirective⟩
    obtain rfl := hasContent_iff.mp hasContent
    simp only [directive?, behind, Option.isSome_map]
    exact cutDirective?_isSome isDirective after

theorem directive?_eq_none_iff :
    comment.directive? = none ↔ ¬ comment.StartsTag := by
  rw [← directive?_isSome_iff, Bool.not_eq_true,
    Option.isSome_eq_false_iff, Option.isNone_iff_eq_none]

theorem goesOn_iff
    {indent : Nat} :
    comment.GoesOn indent content ↔
      comment.continues indent = true ∧ content = comment.content := by
  have blank : comment.content.all isBlank = false ↔
      ∃ c ∈ comment.content, isBlank c = false := by
    simp
  constructor
  · rintro ⟨hasContent, noTag, notBlank, deeper⟩
    obtain rfl := hasContent_iff.mp hasContent
    refine ⟨?_, rfl⟩
    rw [continues, directive?_eq_none_iff.mpr noTag, blank.mpr notBlank,
      indentation, decide_eq_true deeper]
    rfl
  · rintro ⟨continues, rfl⟩
    rw [CommentLine.continues, Bool.and_eq_true, Bool.and_eq_true,
      Option.isNone_iff_eq_none, Bool.not_eq_true', decide_eq_true_eq]
      at continues
    obtain ⟨⟨noDirective, notBlank⟩, deeper⟩ := continues
    exact ⟨hasContent_iff.mpr rfl, directive?_eq_none_iff.mp noDirective,
      blank.mp notBlank, deeper⟩

/-- The contents of the longest run of lines, from the first of them on, that go
on with a tag. -/
def IsRun
    (indent : Nat)
    (lines : List CommentLine)
    (contents : List (List Char)) : Prop :=
  ∃ run others, lines = run ++ others ∧
    List.Forall₂ (GoesOn indent) run contents ∧
    ∀ next, others.head? = some next → ∀ content, ¬ next.GoesOn indent content

theorem forall₂_goesOn_iff
    {indent : Nat}
    {run : List CommentLine}
    {contents : List (List Char)} :
    List.Forall₂ (GoesOn indent) run contents ↔
      (∀ line ∈ run, line.continues indent = true) ∧
        contents = run.map CommentLine.content := by
  induction run generalizing contents with
  | nil => simp
  | cons line rest hypothesis =>
      rw [List.forall₂_cons_left_iff, List.forall_mem_cons, List.map_cons]
      constructor
      · rintro ⟨content, further, goesOn, goOn, rfl⟩
        obtain ⟨continues, rfl⟩ := goesOn_iff.mp goesOn
        obtain ⟨allContinue, rfl⟩ := hypothesis.mp goOn
        exact ⟨⟨continues, allContinue⟩, rfl⟩
      · rintro ⟨⟨continues, allContinue⟩, rfl⟩
        exact ⟨_, _, goesOn_iff.mpr ⟨continues, rfl⟩,
          hypothesis.mpr ⟨allContinue, rfl⟩, rfl⟩

theorem isRun_iff
    {indent : Nat}
    {lines : List CommentLine}
    {contents : List (List Char)} :
    IsRun indent lines contents ↔
      contents = (lines.takeWhile (continues indent)).map
        CommentLine.content := by
  constructor
  · rintro ⟨run, others, rfl, goOn, ends⟩
    obtain ⟨allContinue, rfl⟩ := forall₂_goesOn_iff.mp goOn
    have stops : others.takeWhile (continues indent) = [] := by
      cases others with
      | nil => rfl
      | cons next more =>
          apply List.takeWhile_cons_of_neg
          intro continues
          exact ends next rfl next.content (goesOn_iff.mpr ⟨continues, rfl⟩)
    rw [List.takeWhile_append_of_pos allContinue, stops, List.append_nil]
  · rintro rfl
    refine ⟨_, lines.dropWhile (continues indent),
      List.takeWhile_append_dropWhile.symm,
      forall₂_goesOn_iff.mpr ⟨fun _ => List.mem_takeWhile_imp, rfl⟩, ?_⟩
    intro next head content goesOn
    have stops := List.head?_dropWhile_not (continues indent) lines
    rw [head] at stops
    exact absurd (goesOn_iff.mp goesOn).1 (by simpa using stops)

end CommentLine

/-! ## Blocks and their lines -/

namespace TagBlock

/-- The lines that continue a tag, whether they are counted or not. -/
theorem map_takeWhile_filter_zipIdx
    (comments : List CommentLine)
    (start indent : Nat) :
    (((comments.zipIdx start).filter fun line => line.1.leading).takeWhile
        fun line => line.1.continues indent).map Prod.fst =
      (comments.filter CommentLine.leading).takeWhile
        (CommentLine.continues indent) := by
  rw [← map_fst_filter_zipIdx comments start, List.takeWhile_map]
  rfl

/-- The blocks of lines that are counted from a number on. -/
theorem mem_ofLines_iff
    {comments : List CommentLine}
    {start : Nat}
    {block : TagBlock} :
    block ∈ ofLines ((comments.zipIdx start).filter fun line =>
        line.1.leading) ↔
      ∃ offset, block.index = offset + start ∧
        comments[offset]? = some block.first ∧
        block.first.leading = true ∧
        block.first.directive? = some block.cut ∧
        block.further =
          ((comments.drop (offset + 1)).filter CommentLine.leading).takeWhile
            (CommentLine.continues (byteLength block.cut.indentation)) := by
  induction comments generalizing start with
  | nil => simp [ofLines]
  | cons comment rest hypothesis =>
      have behind (offset : Nat) : offset + 1 + start = offset + (start + 1) := by
        omega
      rw [← Nat.or_exists_add_one]
      simp only [List.getElem?_cons_zero, List.getElem?_cons_succ,
        List.drop_succ_cons, List.drop_zero, Nat.zero_add, behind, ← hypothesis]
      rw [List.zipIdx_cons, List.filter_cons]
      by_cases leading : comment.leading = true
      · rw [if_pos leading]
        cases directive : comment.directive? with
        | none =>
            rw [ofLines_cons_of_none directive]
            refine ⟨Or.inr, ?_⟩
            rintro (⟨_, isFirst, _, found, _⟩ | inRest)
            · obtain rfl := Option.some.inj isFirst
              exact absurd (directive.symm.trans found) (by simp)
            · exact inRest
        | some cut =>
            rw [ofLines_cons_of_some directive, List.mem_cons,
              map_takeWhile_filter_zipIdx]
            apply or_congr_left
            constructor
            · rintro rfl
              exact ⟨rfl, rfl, leading, directive, rfl⟩
            · rintro ⟨indexEq, isFirst, _, found, furtherEq⟩
              obtain rfl := Option.some.inj isFirst
              obtain rfl := Option.some.inj (directive.symm.trans found)
              rw [← indexEq, ← furtherEq]
      · rw [if_neg leading]
        refine ⟨Or.inr, ?_⟩
        rintro (⟨_, isFirst, isLeading, _, _⟩ | inRest)
        · obtain rfl := Option.some.inj isFirst
          exact absurd isLeading leading
        · exact inRest

/-- A block has the leading line that its index counts, cut at its directive,
and the next leading lines as far as they continue the tag. -/
theorem mem_ofComments_iff
    {comments : List CommentLine}
    {block : TagBlock} :
    block ∈ ofComments comments ↔
      comments[block.index]? = some block.first ∧
        block.first.leading = true ∧
        block.first.directive? = some block.cut ∧
        block.further = ((comments.drop (block.index + 1)).filter
          CommentLine.leading).takeWhile
            (CommentLine.continues (byteLength block.cut.indentation)) := by
  rw [ofComments, mem_ofLines_iff]
  constructor
  · rintro ⟨offset, indexEq, isBlock⟩
    rw [Nat.add_zero] at indexEq
    rw [indexEq]
    exact isBlock
  · exact fun isBlock => ⟨block.index, rfl, isBlock⟩

/-- The block of the tag that starts on a line. -/
def startingAt
    (comments : List CommentLine)
    (number : Nat)
    (comment : CommentLine)
    (cut : DirectiveCut) : TagBlock where
  index := number
  first := comment
  cut := cut
  further := ((comments.drop (number + 1)).filter
    CommentLine.leading).takeWhile
      (CommentLine.continues (byteLength cut.indentation))

theorem startingAt_mem_ofComments
    {comments : List CommentLine}
    {number : Nat}
    {comment : CommentLine}
    {cut : DirectiveCut}
    (isComment : comments[number]? = some comment)
    (leading : comment.leading = true)
    (directive : comment.directive? = some cut) :
    startingAt comments number comment cut ∈ ofComments comments :=
  mem_ofComments_iff.mpr ⟨isComment, leading, directive, rfl⟩

/-- The index tells a block from all others. -/
theorem eq_of_index
    {comments : List CommentLine}
    {block other : TagBlock}
    (isBlock : block ∈ ofComments comments)
    (isOther : other ∈ ofComments comments)
    (same : other.index = block.index) :
    other = block := by
  obtain ⟨first, _, directive, further⟩ := mem_ofComments_iff.mp isBlock
  obtain ⟨otherFirst, _, otherDirective, otherFurther⟩ :=
    mem_ofComments_iff.mp isOther
  obtain ⟨index, comment, cut, lines⟩ := block
  obtain ⟨_, otherComment, otherCut, otherLines⟩ := other
  dsimp only at *
  subst same
  obtain rfl := Option.some.inj (first.symm.trans otherFirst)
  obtain rfl := Option.some.inj (directive.symm.trans otherDirective)
  rw [further, otherFurther]

/-- Blocks are in the order of their lines. -/
theorem indices_ofLines_sublist (lines : List (CommentLine × Nat)) :
    ((ofLines lines).map index).Sublist (lines.map Prod.snd) := by
  induction lines with
  | nil => exact .slnil
  | cons line rest hypothesis =>
      obtain ⟨comment, number⟩ := line
      cases directive : comment.directive? with
      | none =>
          rw [ofLines_cons_of_none directive]
          exact hypothesis.cons number
      | some cut =>
          rw [ofLines_cons_of_some directive]
          exact hypothesis.cons_cons number

theorem pairwise_index_ofComments (comments : List CommentLine) :
    ((ofComments comments).map index).Pairwise (· < ·) := by
  have numbers : (comments.zipIdx.map Prod.snd).Pairwise (· < ·) := by
    rw [List.zipIdx_map_snd]
    exact List.pairwise_lt_range' 1
  have inOrder := indices_ofLines_sublist
    (comments.zipIdx.filter fun line => line.1.leading)
  exact numbers.sublist
    (inOrder.trans (List.filter_sublist.map Prod.snd))

end TagBlock

/-! ## Tags as they are described -/

/-- What a comment says about a tag: the line that the tag starts on, its
directive, and its text. -/
structure TagEntry where
  lineIndex : Nat
  directive : String
  text : String
  deriving DecidableEq, Repr

/-- The entry of a tag. -/
def Tag.entry (tag : Tag) : TagEntry :=
  ⟨tag.lineIndex, tag.directive, tag.text⟩

/-- An entry is as the comment says: its line is a leading one with the
directive behind its indentation, and its text is the rest of this line with the
contents of the run of lines that go on with it, a line break in front of
each. -/
def TagEntry.IsReadFrom
    (comments : List CommentLine)
    (entry : TagEntry) : Prop :=
  ∃ comment content directive after contents,
    comments[entry.lineIndex]? = some comment ∧ comment.leading = true ∧
    comment.HasContent content ∧
    trimStart content = '@' :: (directive ++ after) ∧
    IsLongestDirective directive (directive ++ after) ∧
    CommentLine.IsRun (byteLength (leadingBlanks content))
      ((comments.drop (entry.lineIndex + 1)).filter CommentLine.leading)
      contents ∧
    entry.directive = String.ofList directive ∧
    entry.text = String.ofList (['\n'].intercalate (after :: contents))

theorem intercalate_break
    (first : List Char)
    (others : List (List Char)) :
    ['\n'].intercalate (first :: others) =
      first ++ others.flatMap fun line => '\n' :: line := by
  induction others generalizing first with
  | nil => simp [List.intercalate]
  | cons next rest hypothesis =>
      rw [List.intercalate_cons_cons, hypothesis, List.flatMap_cons]
      simp

theorem Tag.text_ofBody
    (index : Nat)
    (directive : String)
    (body : Body) :
    (ofBody index directive body).text = String.ofList body.chars := by
  unfold ofBody
  split <;> rfl

theorem TagBlock.entry_tag (block : TagBlock) :
    block.tag.entry =
      ⟨block.index, String.ofList block.cut.directive,
        String.ofList (['\n'].intercalate
          (block.cut.after :: block.further.map CommentLine.content))⟩ := by
  rw [Tag.entry, tag, Tag.lineIndex_ofBody, Tag.directive_ofBody,
    Tag.text_ofBody, intercalate_break, Body.chars, body, List.flatMap_map,
    List.flatMap_map]
  rfl

/-- The entries that a comment describes are those of its blocks. -/
theorem TagEntry.isReadFrom_iff
    {comments : List CommentLine}
    {entry : TagEntry} :
    entry.IsReadFrom comments ↔
      ∃ block ∈ TagBlock.ofComments comments, block.tag.entry = entry := by
  constructor
  · rintro ⟨comment, content, directive, after, contents, isComment, leading,
      hasContent, behind, isLongest, isRun, directiveEq, textEq⟩
    obtain rfl := CommentLine.hasContent_iff.mp hasContent
    obtain rfl := CommentLine.isRun_iff.mp isRun
    have found : comment.directive? =
        some ⟨leadingBlanks comment.content, directive, after⟩ :=
      CommentLine.directive?_eq_some_iff_isLongestDirective.mpr
        ⟨rfl, behind, isLongest⟩
    refine ⟨_, TagBlock.startingAt_mem_ofComments isComment leading found, ?_⟩
    rw [TagBlock.entry_tag]
    dsimp only [TagBlock.startingAt]
    rw [← directiveEq, ← textEq]
  · rintro ⟨block, isBlock, rfl⟩
    obtain ⟨isComment, leading, directive, further⟩ :=
      TagBlock.mem_ofComments_iff.mp isBlock
    obtain ⟨indentation, behind, isLongest⟩ :=
      CommentLine.directive?_eq_some_iff_isLongestDirective.mp directive
    rw [TagBlock.entry_tag]
    refine ⟨block.first, block.first.content, block.cut.directive,
      block.cut.after, block.further.map CommentLine.content, isComment,
      leading, CommentLine.hasContent_iff.mpr rfl, behind, isLongest, ?_, rfl,
      rfl⟩
    rw [CommentLine.isRun_iff, ← indentation, further]

theorem Tag.map_entry_extract (comments : List CommentLine) :
    (extract comments).map entry =
      (TagBlock.ofComments comments).map fun block => block.tag.entry := by
  rw [← TagBlock.map_tag_ofComments, List.map_map]
  rfl

theorem Tag.map_lineIndex_extract (comments : List CommentLine) :
    ((extract comments).map entry).map TagEntry.lineIndex =
      (TagBlock.ofComments comments).map TagBlock.index := by
  rw [map_entry_extract, List.map_map]
  apply List.map_congr_left
  intro block _
  rw [Function.comp_apply, TagBlock.entry_tag]

/-- The line that it starts on tells an entry from all others. -/
theorem TagEntry.IsReadFrom.eq_of_lineIndex
    {comments : List CommentLine}
    {entry other : TagEntry}
    (isRead : entry.IsReadFrom comments)
    (isOther : other.IsReadFrom comments)
    (same : other.lineIndex = entry.lineIndex) :
    other = entry := by
  obtain ⟨block, isBlock, rfl⟩ := isReadFrom_iff.mp isRead
  obtain ⟨otherBlock, isOtherBlock, rfl⟩ := isReadFrom_iff.mp isOther
  rw [TagBlock.entry_tag, TagBlock.entry_tag] at same
  rw [TagBlock.eq_of_index isBlock isOtherBlock same]

/-- Entries that are read from the same lines, in the order of the lines, are
the same. -/
theorem TagEntry.eq_of_map_lineIndex
    {comments : List CommentLine}
    {entries others : List TagEntry}
    (areRead : ∀ entry ∈ entries, entry.IsReadFrom comments)
    (othersAreRead : ∀ entry ∈ others, entry.IsReadFrom comments)
    (same : entries.map lineIndex = others.map lineIndex) :
    entries = others := by
  induction entries generalizing others with
  | nil => exact (List.map_eq_nil_iff.mp same.symm).symm
  | cons entry rest hypothesis =>
      obtain ⟨other, more, rfl, sameLine, sameLines⟩ :=
        List.map_eq_cons_iff.mp same.symm
      obtain ⟨isRead, restAreRead⟩ := List.forall_mem_cons.mp areRead
      obtain ⟨isOther, moreAreRead⟩ := List.forall_mem_cons.mp othersAreRead
      rw [isRead.eq_of_lineIndex isOther sameLine,
        hypothesis restAreRead moreAreRead sameLines.symm]

/-- A line has a tag exactly if it is a leading line that a tag starts on. -/
theorem TagBlock.mem_index_iff
    {comments : List CommentLine}
    {number : Nat} :
    number ∈ (ofComments comments).map index ↔
      ∃ comment, comments[number]? = some comment ∧
        comment.leading = true ∧ comment.StartsTag := by
  constructor
  · intro member
    obtain ⟨block, isBlock, rfl⟩ := List.mem_map.mp member
    obtain ⟨isComment, leading, directive, _⟩ := mem_ofComments_iff.mp isBlock
    refine ⟨block.first, isComment, leading, ?_⟩
    exact CommentLine.directive?_isSome_iff.mp (by rw [directive]; rfl)
  · rintro ⟨comment, isComment, leading, starts⟩
    obtain ⟨cut, directive⟩ := Option.isSome_iff_exists.mp
      (CommentLine.directive?_isSome_iff.mpr starts)
    exact List.mem_map.mpr
      ⟨_, startingAt_mem_ofComments isComment leading directive, rfl⟩

/-- The tags of a comment are those that it describes: in the order of the
lines, one for each leading line that a tag starts on, with the longest
directive there and the text that goes on over the longest run of deeper lines.
No other list of tags is like this. -/
theorem Tag.map_entry_extract_eq_iff
    (comments : List CommentLine)
    (entries : List TagEntry) :
    (extract comments).map entry = entries ↔
      (entries.map TagEntry.lineIndex).Pairwise (· < ·) ∧
      (∀ number, number ∈ entries.map TagEntry.lineIndex ↔
        ∃ comment, comments[number]? = some comment ∧
          comment.leading = true ∧ comment.StartsTag) ∧
      ∀ entry ∈ entries, entry.IsReadFrom comments := by
  have lines := map_lineIndex_extract comments
  have inOrder := TagBlock.pairwise_index_ofComments comments
  have areRead : ∀ described ∈ (extract comments).map entry,
      described.IsReadFrom comments := by
    rw [map_entry_extract]
    intro described member
    obtain ⟨block, isBlock, rfl⟩ := List.mem_map.mp member
    exact TagEntry.isReadFrom_iff.mpr ⟨block, isBlock, rfl⟩
  constructor
  · rintro rfl
    rw [lines]
    exact ⟨inOrder, fun _ => TagBlock.mem_index_iff, areRead⟩
  · rintro ⟨entriesInOrder, eachLine, entriesAreRead⟩
    apply TagEntry.eq_of_map_lineIndex areRead entriesAreRead
    rw [lines]
    apply inOrder.eq_of_mem_iff entriesInOrder
    intro number
    rw [eachLine number, TagBlock.mem_index_iff]

-- A line that trails code does not end a text, a blank one does.
example :
    (Tag.extract
      [⟨1, 0, "# @see a", true⟩, ⟨2, 9, "# @no", false⟩,
        ⟨3, 0, "#   more", true⟩, ⟨4, 0, "#", true⟩,
        ⟨5, 0, "#   prose", true⟩, ⟨6, 0, "#@!x_1-y", true⟩]).map Tag.entry =
      [⟨0, "see", " a\n  more"⟩, ⟨5, "!x_1", "-y"⟩] := by
  decide +kernel

end DocLint
