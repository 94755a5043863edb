import DocLint.Proofs.BodyPlaces
import DocLint.Tag.Extract
import Mathlib.Data.List.TakeWhile

/-!
# The comment lines of a tag

A tag is read from a block of comment lines: the line with its directive and the
lines that continue it.  Every line of a tag's body is the end of one of these
comment lines, and no comment line belongs to two blocks.
-/

namespace DocLint

open Text

/-- The comment lines that one tag is read from. -/
structure TagBlock where
  /-- Which line of the comment the block starts with. -/
  index : Nat
  first : CommentLine
  /-- The content of the first line, cut at the directive. -/
  cut : DirectiveCut
  /-- The lines that continue the tag. -/
  further : List CommentLine
  deriving DecidableEq, Repr

namespace TagBlock

/-- All comment lines of a block. -/
def comments (block : TagBlock) : List CommentLine :=
  block.first :: block.further

/-- The body that the lines of a block give to its tag. -/
def body (block : TagBlock) : Body where
  firstLine := block.first.tagLine block.cut
  otherLines := block.further.map CommentLine.continuationLine

/-- The tag of a block. -/
def tag (block : TagBlock) : Tag :=
  Tag.ofBody block.index (String.ofList block.cut.directive) block.body

/-- The blocks of leading lines, each line with its index in the comment. -/
def ofLines : List (CommentLine × Nat) → List TagBlock
  | [] => []
  | (comment, index) :: rest =>
      match comment.directive? with
      | none => ofLines rest
      | some cut =>
          { index
            first := comment
            cut
            further := (rest.takeWhile fun line =>
              line.1.continues (byteLength cut.indentation)).map Prod.fst } ::
            ofLines rest

/-- The blocks of a comment in source order. -/
def ofComments (comments : List CommentLine) : List TagBlock :=
  ofLines (comments.zipIdx.filter fun line => line.1.leading)

theorem ofLines_cons_of_none
    {comment : CommentLine}
    (noDirective : comment.directive? = none)
    (index : Nat)
    (rest : List (CommentLine × Nat)) :
    ofLines ((comment, index) :: rest) = ofLines rest := by
  simp only [ofLines, noDirective]

theorem ofLines_cons_of_some
    {comment : CommentLine}
    {cut : DirectiveCut}
    (directive : comment.directive? = some cut)
    (index : Nat)
    (rest : List (CommentLine × Nat)) :
    ofLines ((comment, index) :: rest) =
      { index
        first := comment
        cut
        further := (rest.takeWhile fun line =>
          line.1.continues (byteLength cut.indentation)).map Prod.fst } ::
        ofLines rest := by
  simp only [ofLines, directive]

/-- The tags of leading lines are the tags of their blocks. -/
theorem map_tag_ofLines (lines : List (CommentLine × Nat)) :
    (ofLines lines).map tag = Tag.ofLines lines := by
  induction lines with
  | nil => rfl
  | cons line rest hypothesis =>
      obtain ⟨comment, index⟩ := line
      cases directive : comment.directive? with
      | none =>
          rw [ofLines_cons_of_none directive, hypothesis]
          simp only [Tag.ofLines, directive]
      | some cut =>
          rw [ofLines_cons_of_some directive, List.map_cons, hypothesis]
          simp only [Tag.ofLines, directive, tag, body, List.map_map]
          rfl

theorem map_tag_ofComments (comments : List CommentLine) :
    (ofComments comments).map tag = Tag.extract comments :=
  map_tag_ofLines _

/-! ## The blocks share no line -/

/-- Lines without a directive start no block. -/
theorem ofLines_append_of_none
    {front : List (CommentLine × Nat)}
    (noDirective : ∀ line ∈ front, line.1.directive? = none)
    (rest : List (CommentLine × Nat)) :
    ofLines (front ++ rest) = ofLines rest := by
  induction front with
  | nil => rfl
  | cons line more hypothesis =>
      obtain ⟨comment, index⟩ := line
      have absent : comment.directive? = none :=
        noDirective (comment, index) (by simp)
      rw [List.cons_append, ofLines_cons_of_none absent]
      exact hypothesis fun other member => noDirective other (by simp [member])

theorem directive?_of_continues
    {indent : Nat}
    {comment : CommentLine}
    (continues : comment.continues indent = true) :
    comment.directive? = none := by
  simp only [CommentLine.continues, Bool.and_eq_true, Option.isNone_iff_eq_none]
    at continues
  exact continues.1.1

/-- The lines of the blocks are lines of the comment, each used once. -/
theorem comments_ofLines_sublist :
    (lines : List (CommentLine × Nat)) →
    ((ofLines lines).flatMap comments).Sublist (lines.map Prod.fst)
  | [] => by simp [ofLines]
  | (comment, index) :: rest => by
      cases directive : comment.directive? with
      | none =>
          rw [ofLines_cons_of_none directive, List.map_cons]
          exact (comments_ofLines_sublist rest).cons comment
      | some cut =>
          let continues : CommentLine × Nat → Bool := fun line =>
            line.1.continues (byteLength cut.indentation)
          -- The lines that continue the tag start no block of their own.
          have noDirective : ∀ line ∈ rest.takeWhile continues,
              line.1.directive? = none := by
            intro line member
            have holds : continues line = true := List.mem_takeWhile_imp member
            exact directive?_of_continues holds
          have skipped :=
            ofLines_append_of_none noDirective (rest.dropWhile continues)
          rw [List.takeWhile_append_dropWhile] at skipped
          have behind := comments_ofLines_sublist (rest.dropWhile continues)
          have whole := (List.Sublist.refl
            ((rest.takeWhile continues).map Prod.fst)).append behind
          rw [← List.map_append, List.takeWhile_append_dropWhile,
            ← skipped] at whole
          rw [ofLines_cons_of_some directive, List.flatMap_cons, List.map_cons]
          exact whole.cons_cons comment
termination_by lines => lines.length
decreasing_by
  · exact Nat.lt_succ_self rest.length
  · exact Nat.lt_succ_of_le (List.dropWhile_sublist continues).length_le

/-- The lines that tags are read from are the leading lines, from whatever
number on they are counted. -/
theorem map_fst_filter_zipIdx
    (comments : List CommentLine)
    (start : Nat) :
    ((comments.zipIdx start).filter fun line => line.1.leading).map Prod.fst =
      comments.filter CommentLine.leading := by
  rw [← List.zipIdx_map_fst start comments, List.filter_map,
    List.zipIdx_map_fst]
  rfl

theorem comments_ofComments_sublist (comments : List CommentLine) :
    ((ofComments comments).flatMap TagBlock.comments).Sublist
      (comments.filter CommentLine.leading) := by
  rw [← map_fst_filter_zipIdx comments 0]
  exact comments_ofLines_sublist _

/-- Every line of a block is a leading line of the comment. -/
theorem mem_of_mem_ofComments
    {comments : List CommentLine}
    {block : TagBlock}
    (member : block ∈ ofComments comments)
    {comment : CommentLine}
    (inBlock : comment ∈ block.comments) :
    comment ∈ comments ∧ comment.leading = true :=
  List.mem_filter.mp <| (comments_ofComments_sublist comments).subset <|
    List.mem_flatMap.mpr ⟨block, member, inBlock⟩

/-! ## The lines of a body -/

/-- A block is read from its lines: the first has the directive, the others
continue it. -/
structure IsRead (block : TagBlock) : Prop where
  directive : block.first.directive? = some block.cut
  continues : ∀ comment ∈ block.further,
    comment.continues (byteLength block.cut.indentation) = true

theorem isRead_of_mem_ofLines
    {lines : List (CommentLine × Nat)}
    {block : TagBlock}
    (member : block ∈ ofLines lines) :
    IsRead block := by
  induction lines with
  | nil => exact absurd member (by simp [ofLines])
  | cons line rest hypothesis =>
      obtain ⟨comment, index⟩ := line
      cases directive : comment.directive? with
      | none =>
          rw [ofLines_cons_of_none directive] at member
          exact hypothesis member
      | some cut =>
          rw [ofLines_cons_of_some directive, List.mem_cons] at member
          rcases member with rfl | member
          · refine ⟨directive, ?_⟩
            intro further furtherMember
            obtain ⟨line, taken, rfl⟩ := List.mem_map.mp furtherMember
            exact List.mem_takeWhile_imp (p := fun line : CommentLine × Nat =>
              line.1.continues (byteLength cut.indentation)) taken
          · exact hypothesis member

end TagBlock

/-- A body line is the end of a comment line. -/
structure BodyLine.IsEndOf
    (line : BodyLine)
    (comment : CommentLine) : Prop where
  line_eq : line.line = comment.line
  chars : ∃ front, comment.text.toList = front ++ line.chars ∧
    line.column = comment.column + byteLength front

namespace CommentLine

/-- The cut at a directive keeps every character. -/
theorem append_of_cutDirective?
    {text : List Char}
    {cut : List Char × List Char}
    (found : cutDirective? text = some cut) :
    text = cut.1 ++ cut.2 := by
  unfold cutDirective? at found
  split at found
  · split at found
    · cases found
      simp [List.takeWhile_append_dropWhile]
    · exact absurd found (by simp)
  · split at found
    · cases found
      simp [List.takeWhile_append_dropWhile]
    · exact absurd found (by simp)
  · exact absurd found (by simp)

theorem directive?_eq_some_iff
    {comment : CommentLine}
    {cut : DirectiveCut} :
    comment.directive? = some cut ↔
      ∃ rest, trimStart comment.content = '@' :: rest ∧
        cutDirective? rest = some (cut.directive, cut.after) ∧
        cut.indentation = comment.indentation := by
  unfold directive?
  split
  · rename_i rest behind
    rw [behind, Option.map_eq_some_iff]
    constructor
    · rintro ⟨parts, found, rfl⟩
      exact ⟨rest, rfl, found, rfl⟩
    · rintro ⟨other, equal, found, indentation⟩
      obtain ⟨_, rfl⟩ := List.cons.inj equal
      refine ⟨_, found, ?_⟩
      rw [← indentation]
  · rename_i noSign
    constructor
    · exact fun absent => absurd absent (by simp)
    · rintro ⟨rest, behind, _⟩
      exact absurd behind (noSign rest)

/-- The parts of a line with a directive. -/
theorem content_of_directive?
    {comment : CommentLine}
    {cut : DirectiveCut}
    (directive : comment.directive? = some cut) :
    comment.content = cut.indentation ++ '@' :: cut.directive ++ cut.after := by
  obtain ⟨rest, behind, found, indentation⟩ := directive?_eq_some_iff.mp directive
  have whole := leadingBlanks_append_trimStart comment.content
  rw [behind, append_of_cutDirective? found] at whole
  rw [indentation, CommentLine.indentation, List.append_assoc]
  exact whole.symm

theorem isEndOf_tagLine
    {comment : CommentLine}
    {cut : DirectiveCut}
    (directive : comment.directive? = some cut) :
    (comment.tagLine cut).IsEndOf comment := by
  refine ⟨rfl, comment.marker ++ cut.indentation ++ '@' :: cut.directive, ?_,
    rfl⟩
  rw [← marker_append_content, content_of_directive? directive]
  simp [tagLine]

theorem isEndOf_continuationLine (comment : CommentLine) :
    comment.continuationLine.IsEndOf comment :=
  ⟨rfl, comment.marker, (marker_append_content comment).symm, rfl⟩

end CommentLine

/-- Every line of a body is the end of a comment line of its block. -/
theorem TagBlock.IsRead.exists_isEndOf
    {block : TagBlock}
    (isRead : IsRead block)
    {line : BodyLine}
    (member : line ∈ block.body.lines) :
    ∃ comment ∈ block.comments, line.IsEndOf comment := by
  rcases List.mem_cons.mp member with rfl | member
  · exact ⟨block.first, by simp [comments],
      CommentLine.isEndOf_tagLine isRead.directive⟩
  · obtain ⟨comment, further, rfl⟩ := List.mem_map.mp member
    exact ⟨comment, by simp [comments, further],
      CommentLine.isEndOf_continuationLine comment⟩

end DocLint
