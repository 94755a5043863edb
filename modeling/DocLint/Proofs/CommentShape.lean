import DocLint.Proofs.TagBlocks
import DocLint.Proofs.TypeList

/-!
# Changes that keep the shape of comment lines

The blocks of a comment depend on the shape of its lines: their markers, their
indentations, and their directives.  A change of the text behind these keeps the
blocks, so that the tags before and after the change correspond.
-/

namespace DocLint

open Text

/-- Two comment lines in the same place that look alike up to their
directives. -/
structure SameShape (comment changed : CommentLine) : Prop where
  line : changed.line = comment.line
  column : changed.column = comment.column
  leading : changed.leading = comment.leading
  marker : changed.marker = comment.marker
  indentation : changed.indentation = comment.indentation
  blank : changed.content.all isBlank = comment.content.all isBlank
  directive : changed.directive?.map DirectiveCut.directive =
    comment.directive?.map DirectiveCut.directive

theorem SameShape.refl (comment : CommentLine) : SameShape comment comment :=
  ⟨rfl, rfl, rfl, rfl, rfl, rfl, rfl⟩

namespace SameShape

variable {comment changed : CommentLine}

theorem continues_eq
    (sameShape : SameShape comment changed)
    (indent : Nat) :
    changed.continues indent = comment.continues indent := by
  have none : changed.directive?.isNone = comment.directive?.isNone := by
    have mapped := congrArg Option.isNone sameShape.directive
    simpa using mapped
  rw [CommentLine.continues, CommentLine.continues, none, sameShape.blank,
    sameShape.indentation]

theorem directive?_eq_none
    (sameShape : SameShape comment changed)
    (noDirective : comment.directive? = none) :
    changed.directive? = none := by
  have mapped := sameShape.directive
  rw [noDirective] at mapped
  simpa using mapped

/-- A line with a directive keeps the directive and its indentation. -/
theorem exists_directive?
    (sameShape : SameShape comment changed)
    {cut : DirectiveCut}
    (directive : comment.directive? = some cut) :
    ∃ after, changed.directive? =
      some ⟨cut.indentation, cut.directive, after⟩ := by
  have mapped := sameShape.directive
  rw [directive, Option.map_some, Option.map_eq_some_iff] at mapped
  obtain ⟨newCut, found, directiveEq⟩ := mapped
  obtain ⟨_, _, _, newIndentation⟩ :=
    CommentLine.directive?_eq_some_iff.mp found
  obtain ⟨_, _, _, indentation⟩ :=
    CommentLine.directive?_eq_some_iff.mp directive
  refine ⟨newCut.after, ?_⟩
  rw [found, indentation, ← sameShape.indentation, ← newIndentation,
    ← directiveEq]

end SameShape

/-! ## Blocks of changed lines -/

/-- A block with its lines changed. -/
def TagBlock.map
    (change : CommentLine → CommentLine)
    (block : TagBlock) : TagBlock where
  index := block.index
  first := change block.first
  cut := (change block.first).directive?.getD block.cut
  further := block.further.map change

namespace TagBlock

variable {change : CommentLine → CommentLine}

/-- A block keeps its directive when its first line keeps its shape. -/
theorem directive_map
    {block : TagBlock}
    (isRead : block.IsRead)
    (shape : SameShape block.first (change block.first)) :
    (block.map change).cut.directive = block.cut.directive := by
  obtain ⟨after, changed⟩ := shape.exists_directive? isRead.directive
  simp only [TagBlock.map, changed, Option.getD_some]

theorem takeWhile_continues_map
    {lines : List (CommentLine × Nat)}
    (sameShape : ∀ line ∈ lines, SameShape line.1 (change line.1))
    (indent : Nat) :
    (lines.map fun line => (change line.1, line.2)).takeWhile
        (fun line => line.1.continues indent) =
      (lines.takeWhile fun line => line.1.continues indent).map
        fun line => (change line.1, line.2) := by
  induction lines with
  | nil => rfl
  | cons line rest hypothesis =>
      have here := (sameShape line (by simp)).continues_eq indent
      have behind := hypothesis fun other member =>
        sameShape other (by simp [member])
      rw [List.map_cons, List.takeWhile_cons, List.takeWhile_cons]
      dsimp only
      rw [here, behind]
      split <;> rfl

/-- A change that keeps the shape of the lines keeps the blocks. -/
theorem ofLines_map
    {lines : List (CommentLine × Nat)}
    (sameShape : ∀ line ∈ lines, SameShape line.1 (change line.1)) :
    ofLines (lines.map fun line => (change line.1, line.2)) =
      (ofLines lines).map (TagBlock.map change) := by
  induction lines with
  | nil => rfl
  | cons line rest hypothesis =>
      obtain ⟨comment, index⟩ := line
      have shape : SameShape comment (change comment) :=
        sameShape (comment, index) (by simp)
      have restShape : ∀ other ∈ rest, SameShape other.1 (change other.1) :=
        fun other member => sameShape other (by simp [member])
      rw [List.map_cons]
      cases directive : comment.directive? with
      | none =>
          rw [ofLines_cons_of_none (shape.directive?_eq_none directive),
            ofLines_cons_of_none directive, hypothesis restShape]
      | some cut =>
          obtain ⟨after, changed⟩ := shape.exists_directive? directive
          rw [ofLines_cons_of_some changed, ofLines_cons_of_some directive,
            List.map_cons, hypothesis restShape,
            takeWhile_continues_map restShape]
          simp only [TagBlock.map, changed, Option.getD_some, List.map_map]
          rfl

theorem ofComments_map
    {comments : List CommentLine}
    (sameShape : ∀ comment ∈ comments, SameShape comment (change comment)) :
    ofComments (comments.map change) =
      (ofComments comments).map (TagBlock.map change) := by
  have inComments {line : CommentLine × Nat}
      (member : line ∈ comments.zipIdx) : line.1 ∈ comments :=
    List.fst_mem_of_mem_zipIdx member
  have filtered : (comments.map change).zipIdx.filter
      (fun line => line.1.leading) =
        (comments.zipIdx.filter fun line => line.1.leading).map
          fun line => (change line.1, line.2) := by
    rw [List.zipIdx_map, List.filter_map]
    congr 1
    apply List.filter_congr
    intro line member
    exact (sameShape line.1 (inComments member)).leading
  rw [ofComments, filtered, ofComments, ofLines_map]
  intro line member
  exact sameShape line.1 (inComments (List.mem_filter.mp member).1)

end TagBlock
/-! ## Changes behind the marker -/

/-- Blanks are cut off in front of a character that is none. -/
theorem cut_leadingBlanks
    {c : Char}
    (notBlank : isBlank c = false)
    (front rest : List Char) :
    leadingBlanks (front ++ c :: rest) = leadingBlanks front ∧
      trimStart (front ++ c :: rest) = trimStart front ++ c :: rest := by
  have allBlank : ∀ d ∈ leadingBlanks front, isBlank d = true :=
    fun d member => List.mem_takeWhile_imp member
  have outside : StartsOutside isBlank (trimStart front ++ c :: rest) := by
    have cutOutside := startsOutside_dropWhile isBlank front
    intro d head
    cases trimmed : trimStart front with
    | nil =>
        rw [trimmed] at head
        obtain rfl : c = d := Option.some.inj head
        exact notBlank
    | cons e more =>
        rw [trimmed] at head
        apply cutOutside d
        rw [show front.dropWhile isBlank = e :: more from trimmed]
        exact head
  have whole : front ++ c :: rest =
      leadingBlanks front ++ (trimStart front ++ c :: rest) := by
    rw [← List.append_assoc, leadingBlanks_append_trimStart]
  rw [whole]
  exact ⟨takeWhile_append allBlank outside, dropWhile_append allBlank outside⟩

/-- A marker in front of a content: blanks, then a number sign and a space, a
number sign that no space follows, or nothing. -/
inductive IsMarked : List Char → List Char → Prop
  | spaced {blanks content : List Char} :
      (∀ c ∈ blanks, isBlank c = true) →
      IsMarked (blanks ++ ['#', ' ']) content
  | sign {blanks content : List Char} :
      (∀ c ∈ blanks, isBlank c = true) → content.head? ≠ some ' ' →
      IsMarked (blanks ++ ['#']) content
  | plain {blanks content : List Char} :
      (∀ c ∈ blanks, isBlank c = true) → content.head? ≠ some '#' →
      StartsOutside isBlank content →
      IsMarked blanks content

/-- Whether a marker is one depends on the first character behind it only. -/
theorem IsMarked.of_head
    {marker content changed : List Char}
    (isMarked : IsMarked marker content)
    (head : changed.head? = content.head?) :
    IsMarked marker changed := by
  cases isMarked with
  | spaced allBlank => exact .spaced allBlank
  | sign allBlank notSpace =>
      rw [← head] at notSpace
      exact .sign allBlank notSpace
  | plain allBlank notSign outside =>
      rw [← head] at notSign
      refine .plain allBlank notSign ?_
      intro c first
      rw [head] at first
      exact outside c first

namespace CommentLine

variable {comment changed : CommentLine}

theorem isMarked (comment : CommentLine) :
    IsMarked comment.marker comment.content := by
  have allBlank : ∀ c ∈ leadingBlanks comment.text.toList, isBlank c = true :=
    fun c member => List.mem_takeWhile_imp member
  have outside := startsOutside_dropWhile isBlank comment.text.toList
  unfold marker content cut
  split
  · exact .spaced allBlank
  · rename_i notSpaced found
    refine .sign allBlank ?_
    intro space
    obtain ⟨rest, rfl⟩ := List.head?_eq_some_iff.mp space
    exact notSpaced rest rfl
  · rename_i notSpaced notSign
    refine .plain allBlank ?_ outside
    intro sign
    obtain ⟨rest, found⟩ := List.head?_eq_some_iff.mp sign
    exact notSign rest found

/-- The marker and the content of a line are the parts of its text. -/
theorem cut_of_isMarked
    {marker content : List Char}
    (isMarked : IsMarked marker content)
    (text : comment.text.toList = marker ++ content) :
    comment.cut = (marker, content) := by
  have signOutside (rest : List Char) : StartsOutside isBlank ('#' :: rest) :=
    startsOutside_cons (by decide) rest
  unfold cut leadingBlanks trimStart
  cases isMarked with
  | @spaced blanks _ allBlank =>
      rw [List.append_assoc, List.cons_append] at text
      rw [text, dropWhile_append allBlank (signOutside _),
        takeWhile_append allBlank (signOutside _)]
      rfl
  | @sign blanks _ allBlank notSpace =>
      rw [List.append_assoc, List.singleton_append] at text
      rw [text, dropWhile_append allBlank (signOutside _),
        takeWhile_append allBlank (signOutside _)]
      cases content with
      | nil => rfl
      | cons c rest =>
          have apart : c ≠ ' ' := by
            rintro rfl
            exact notSpace rfl
          simp [apart]
  | plain allBlank notSign outside =>
      rw [text, dropWhile_append allBlank outside,
        takeWhile_append allBlank outside]
      cases content with
      | nil => rfl
      | cons c rest =>
          have apart : c ≠ '#' := by
            rintro rfl
            exact notSign rfl
          simp [apart]

/-- The marker stays when the content behind it starts with the same
character. -/
theorem marker_and_content_of_text
    {content : List Char}
    (text : changed.text.toList = comment.marker ++ content)
    (head : content.head? = comment.content.head?) :
    changed.marker = comment.marker ∧ changed.content = content := by
  have cutEq := cut_of_isMarked (comment.isMarked.of_head head) text
  rw [marker, CommentLine.content, cutEq]
  exact ⟨rfl, rfl⟩

end CommentLine

/-! ## Directives -/

theorem isDirectiveStart_ne
    {c : Char}
    (starts : isDirectiveStart c = true) :
    c ≠ '!' := by
  rintro rfl
  exact absurd starts (by decide)

/-- A directive starts with its own first character, perhaps behind an
exclamation mark, and goes on as far as possible. -/
theorem cutDirective?_eq_some_iff
    {text directive after : List Char} :
    cutDirective? text = some (directive, after) ↔
      ∃ c word, isDirectiveStart c = true ∧
        (directive = c :: word ∨ directive = '!' :: c :: word) ∧
        (∀ d ∈ word, isDirectiveChar d = true) ∧
        StartsOutside isDirectiveChar after ∧ text = directive ++ after := by
  constructor
  · intro found
    have whole := CommentLine.append_of_cutDirective? found
    unfold cutDirective? at found
    split at found
    · split at found
      · rename_i c rest starts
        obtain ⟨rfl, rfl⟩ := Prod.mk.inj (Option.some.inj found)
        exact ⟨c, rest.takeWhile isDirectiveChar, starts, Or.inr rfl,
          fun d member => List.mem_takeWhile_imp member,
          startsOutside_dropWhile isDirectiveChar rest, whole⟩
      · exact absurd found (by simp)
    · split at found
      · rename_i c rest _ starts
        obtain ⟨rfl, rfl⟩ := Prod.mk.inj (Option.some.inj found)
        exact ⟨c, rest.takeWhile isDirectiveChar, starts, Or.inl rfl,
          fun d member => List.mem_takeWhile_imp member,
          startsOutside_dropWhile isDirectiveChar rest, whole⟩
      · exact absurd found (by simp)
    · exact absurd found (by simp)
  · rintro ⟨c, word, starts, shape, wordChars, outside, rfl⟩
    have taken := takeWhile_append wordChars outside
    have dropped := dropWhile_append wordChars outside
    rcases shape with rfl | rfl
    · have notMark := isDirectiveStart_ne starts
      rw [List.cons_append]
      unfold cutDirective?
      split
      · rename_i given
        exact absurd (List.cons.inj given).1 notMark
      · rename_i given
        obtain ⟨rfl, rfl⟩ := List.cons.inj given
        rw [if_pos starts, taken, dropped]
      · rename_i given
        exact absurd given (by simp)
    · rw [List.cons_append, List.cons_append, cutDirective?, if_pos starts,
        taken, dropped]

/-- A directive ends at the same place when the same character follows. -/
theorem cutDirective?_of_head
    {directive after changed : List Char}
    (found : cutDirective? (directive ++ after) = some (directive, after))
    (head : changed.head? = after.head?) :
    cutDirective? (directive ++ changed) = some (directive, changed) := by
  obtain ⟨c, word, starts, shape, wordChars, outside, _⟩ :=
    cutDirective?_eq_some_iff.mp found
  apply cutDirective?_eq_some_iff.mpr
  refine ⟨c, word, starts, shape, wordChars, ?_, rfl⟩
  intro d first
  rw [head] at first
  exact outside d first

/-- Whether a directive is there is settled in front of a square bracket. -/
theorem cutDirective?_bracket
    {front rest : List Char}
    (absent : cutDirective? (front ++ '[' :: rest) = none)
    (changed : List Char) :
    cutDirective? (front ++ '[' :: changed) = none := by
  have notStart : isDirectiveStart '[' = false := by decide
  match front with
  | [] => simp [cutDirective?, notStart]
  | [c] =>
      by_cases mark : c = '!'
      · simp [cutDirective?, mark, notStart]
      · simpa [cutDirective?, mark] using absent
  | c :: d :: more =>
      by_cases mark : c = '!'
      · simpa [cutDirective?, mark] using absent
      · simpa [cutDirective?, mark] using absent

namespace CommentLine

variable {comment changed : CommentLine}

/-- Two lines in the same place. -/
structure SamePlace (comment changed : CommentLine) : Prop where
  line : changed.line = comment.line
  column : changed.column = comment.column
  leading : changed.leading = comment.leading

theorem sameShape_of_tagLine
    (samePlace : SamePlace comment changed)
    {cut : DirectiveCut}
    (directive : comment.directive? = some cut)
    {after : List Char}
    (text : changed.text.toList =
      comment.marker ++ (cut.indentation ++ '@' :: cut.directive ++ after))
    (head : after.head? = cut.after.head?) :
    SameShape comment changed := by
  have contentEq := content_of_directive? directive
  obtain ⟨rest, behind, found, indentation⟩ :=
    directive?_eq_some_iff.mp directive
  obtain rfl := append_of_cutDirective? found
  have allBlank : ∀ c ∈ cut.indentation, isBlank c = true := by
    rw [indentation]
    exact fun c member => List.mem_takeWhile_imp member
  have outside (more : List Char) : StartsOutside isBlank ('@' :: more) :=
    startsOutside_cons (by decide) more
  have sameHead : (cut.indentation ++ '@' :: cut.directive ++ after).head? =
      comment.content.head? := by
    rw [contentEq]
    cases cut.indentation <;> rfl
  obtain ⟨markerEq, newContent⟩ := marker_and_content_of_text text sameHead
  rw [List.append_assoc] at newContent
  have newIndentation : changed.indentation = cut.indentation := by
    rw [CommentLine.indentation, newContent]
    exact takeWhile_append allBlank (outside _)
  have newBehind : trimStart changed.content =
      '@' :: (cut.directive ++ after) := by
    rw [newContent]
    exact dropWhile_append allBlank (outside _)
  have newDirective : changed.directive? =
      some ⟨cut.indentation, cut.directive, after⟩ :=
    directive?_eq_some_iff.mpr
      ⟨_, newBehind, cutDirective?_of_head found head, newIndentation.symm⟩
  have notBlank (more : List Char) :
      (cut.indentation ++ '@' :: more).all isBlank = false := by
    have signNotBlank : isBlank '@' = false := by decide
    simp [signNotBlank]
  refine ⟨samePlace.line, samePlace.column, samePlace.leading, markerEq,
    newIndentation.trans indentation, ?_, ?_⟩
  · rw [newContent, contentEq, List.append_assoc, List.cons_append,
      List.cons_append, notBlank, notBlank]
  · rw [newDirective, directive]
    rfl

/-- A line without a directive keeps its shape when it still has none, and its
indentation stays. -/
theorem sameShape_of_content
    (samePlace : SamePlace comment changed)
    (noDirective : comment.directive? = none)
    {blanks rest newRest : List Char}
    (contentEq : comment.content = blanks ++ rest)
    (text : changed.text.toList = comment.marker ++ (blanks ++ newRest))
    (allBlank : ∀ c ∈ blanks, isBlank c = true)
    (nonempty : blanks ≠ [])
    (outside : ∃ c, rest.head? = some c ∧ isBlank c = false)
    (newOutside : ∃ c, newRest.head? = some c ∧ isBlank c = false)
    (noSign : ∀ more, newRest = '@' :: more → cutDirective? more = none) :
    SameShape comment changed := by
  have sameHead : (blanks ++ newRest).head? = comment.content.head? := by
    rw [contentEq, List.head?_append_of_ne_nil _ nonempty,
      List.head?_append_of_ne_nil _ nonempty]
  obtain ⟨markerEq, newContent⟩ := marker_and_content_of_text text sameHead
  have startsOutside {other : List Char}
      (tight : ∃ c, other.head? = some c ∧ isBlank c = false) :
      StartsOutside isBlank other := by
    obtain ⟨c, head, notBlank⟩ := tight
    intro d first
    obtain rfl : c = d := Option.some.inj (head.symm.trans first)
    exact notBlank
  have notBlank {other : List Char}
      (tight : ∃ c, other.head? = some c ∧ isBlank c = false) :
      (blanks ++ other).all isBlank = false := by
    obtain ⟨c, head, notBlank⟩ := tight
    obtain ⟨more, rfl⟩ := List.head?_eq_some_iff.mp head
    simp [notBlank]
  have newDirective : changed.directive? = none := by
    have behind : trimStart changed.content = newRest := by
      rw [newContent]
      exact dropWhile_append allBlank (startsOutside newOutside)
    rw [directive?, behind]
    split
    · rename_i more
      rw [noSign more rfl]
      rfl
    · rfl
  refine ⟨samePlace.line, samePlace.column, samePlace.leading, markerEq, ?_, ?_,
    ?_⟩
  · rw [indentation, indentation, newContent, contentEq, leadingBlanks,
      leadingBlanks, takeWhile_append allBlank (startsOutside newOutside),
      takeWhile_append allBlank (startsOutside outside)]
  · rw [newContent, contentEq, notBlank newOutside, notBlank outside]
  · rw [newDirective, noDirective]

end CommentLine
end DocLint
