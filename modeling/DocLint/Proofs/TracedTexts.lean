import DocLint.Proofs.TagPlaces
import DocLint.Proofs.TagReading

/-!
# Texts and the comment lines they are copied from

A text that is read from a tag consists of pieces, one for each comment line
that it covers.  Each piece is copied: the characters at its offset in the text
are the characters at its column on the comment line.  The pieces follow each
other with a line break between two of them, and a text without a line break has
one piece only.
-/

namespace DocLint

open Text

/-! ## Parts that two cuts of a text share -/

/-- Of two cuts of a text, the later one has more in front of it. -/
theorem exists_append_of_byteLength_le
    {front back lead rest : List Char}
    (same : front ++ back = lead ++ rest)
    (notBehind : byteLength front ≤ byteLength lead) :
    ∃ skipped, lead = front ++ skipped ∧ back = skipped ++ rest := by
  rcases List.append_eq_append_iff.mp same with split | ⟨more, frontEq, restEq⟩
  · exact split
  · cases more with
    | nil => exact ⟨[], by simp [frontEq], by simpa using restEq.symm⟩
    | cons c others =>
        have positive := c.utf8Size_pos
        rw [frontEq, byteLength_append, byteLength_cons] at notBehind
        omega

/-- A part of a text that starts inside of another part shares with it all up to
the end of one of them. -/
theorem exists_shared
    {front part back lead inner rest : List Char}
    (same : front ++ (part ++ back) = lead ++ (inner ++ rest))
    (notBehind : byteLength front ≤ byteLength lead)
    (inside : byteLength lead < byteLength front + byteLength part) :
    ∃ skipped shared partEnd innerEnd, lead = front ++ skipped ∧
      part = skipped ++ shared ++ partEnd ∧ inner = shared ++ innerEnd ∧
      (partEnd = [] ∨ innerEnd = []) := by
  obtain ⟨skipped, rfl, behind⟩ :=
    exists_append_of_byteLength_le same notBehind
  rw [byteLength_append] at inside
  obtain ⟨partRest, rfl, innerEq⟩ :=
    exists_append_of_byteLength_le behind.symm (by omega)
  rcases List.append_eq_append_iff.mp innerEq with
    ⟨partEnd, rfl, _⟩ | ⟨innerEnd, rfl, _⟩
  · exact ⟨skipped, inner, partEnd, [], rfl, by simp, by simp, Or.inr rfl⟩
  · exact ⟨skipped, partRest, [], innerEnd, rfl, by simp, rfl, Or.inl rfl⟩

/-! ## Pieces of a body -/

/-- A piece stands for the same characters of a text and of a body line. -/
def Piece.Copies (piece : Piece) (text : List Char) (line : BodyLine) : Prop :=
  ∃ front part back left right,
    text = front ++ part ++ back ∧ piece.offset = byteLength front ∧
    piece.length = byteLength part ∧ line.chars = left ++ part ++ right ∧
    piece.line = line.line ∧ piece.column = line.column + byteLength left

namespace Body

/-- The segments of lines do not touch. -/
theorem pairwise_segmentsFrom
    (start : Nat)
    (lines : List BodyLine) :
    (segmentsFrom start lines).Pairwise fun left right =>
      left.stop < right.start := by
  induction lines generalizing start with
  | nil => exact List.Pairwise.nil
  | cons line rest hypothesis =>
      rw [segmentsFrom]
      refine List.pairwise_cons.mpr ⟨?_, hypothesis _⟩
      intro later member
      have behind := start_le_of_mem_segmentsFrom member
      simp only [segmentOf, Segment.stop]
      omega

/-- Each piece of a text ends before the next ones start. -/
theorem pairwise_pieces
    (body : Body)
    (before text : List Char) :
    (body.textAt before text).pieces.Pairwise fun left right =>
      left.offset + left.length < right.offset := by
  unfold textAt
  dsimp only
  split
  · exact List.pairwise_singleton _ _
  · rename_i first others clipped
    rw [TagText.pieces]
    dsimp only
    rw [← clipped, List.pairwise_filterMap]
    refine (pairwise_segmentsFrom 0 _).imp ?_
    intro left right apart piece found other otherFound
    unfold Segment.clip? at found otherFound
    split at found
    · split at otherFound
      · rename_i meets otherMeets
        cases found
        cases otherFound
        simp only [Segment.stop] at apart meets otherMeets ⊢
        omega
      · exact absurd otherFound (by simp)
    · exact absurd found (by simp)

section Copied

variable {body : Body}
variable {earlier later : List BodyLine}
variable {line : BodyLine}
variable {before text after : List Char}

/-- What is clipped from the segment of a line is copied from that line. -/
theorem copies_of_clip?
    (chars : body.chars = before ++ text ++ after)
    (split : body.lines = earlier ++ line :: later)
    {piece : Piece}
    (clipped : (segmentOf (byteLength (joined earlier)) line).clip?
      (byteLength before) (byteLength before + byteLength text) =
        some piece) :
    piece.Copies text line := by
  have same : before ++ (text ++ after) =
      joined earlier ++ (line.chars ++ following later) := by
    rw [← chars_of_lines split, chars, List.append_assoc]
  unfold Segment.clip? at clipped
  split at clipped
  · rename_i meets
    cases clipped
    simp only [segmentOf, Segment.stop] at meets ⊢
    -- Either the line starts inside of the text or the text inside of the line.
    rcases Nat.le_total (byteLength before) (byteLength (joined earlier)) with
      textFirst | lineFirst
    · obtain ⟨skipped, shared, textEnd, lineEnd, leadEq, rfl, lineEq, ends⟩ :=
        exists_shared same textFirst meets.1
      have lead := congrArg byteLength leadEq
      have lineLength := congrArg byteLength lineEq
      simp only [byteLength_append] at lead lineLength meets
      refine ⟨skipped, shared, textEnd, [], lineEnd, rfl, ?_, ?_, lineEq, rfl,
        ?_⟩
      · dsimp only
        omega
      · rcases ends with rfl | rfl
        all_goals
          simp only [byteLength_append, byteLength_nil] at lineLength ⊢
          omega
      · simp only [byteLength_nil]
        omega
    · obtain ⟨skipped, shared, lineEnd, textEnd, leadEq, lineEq, rfl, ends⟩ :=
        exists_shared same.symm lineFirst meets.2
      have lead := congrArg byteLength leadEq
      have lineLength := congrArg byteLength lineEq
      simp only [byteLength_append] at lead lineLength meets
      refine ⟨[], shared, textEnd, skipped, lineEnd, rfl, ?_, ?_, lineEq, rfl,
        ?_⟩
      · simp only [byteLength_nil]
        omega
      · rcases ends with rfl | rfl
        all_goals
          simp only [byteLength_append, byteLength_nil] at lineLength ⊢
          omega
      · dsimp only
        omega
  · exact absurd clipped (by simp)

/-- The point nearest to the start of a text stands between two characters of
its line. -/
theorem copies_pointAt
    (chars : body.chars = before ++ text ++ after)
    (split : body.lines = earlier ++ line :: later)
    (notBehind : byteLength (joined earlier) ≤ byteLength before) :
    ((segmentOf (byteLength (joined earlier)) line).pointAt
      (byteLength before)).Copies text line := by
  have same : joined earlier ++ (line.chars ++ following later) =
      before ++ (text ++ after) := by
    rw [← chars_of_lines split, chars, List.append_assoc]
  obtain ⟨skipped, beforeEq, behind⟩ :=
    exists_append_of_byteLength_le same notBehind
  have position := congrArg byteLength beforeEq
  rw [byteLength_append] at position
  have point {left right : List Char}
      (lineEq : line.chars = left ++ right)
      (column : min (byteLength skipped) (byteLength line.chars) =
        byteLength left) :
      ((segmentOf (byteLength (joined earlier)) line).pointAt
        (byteLength before)).Copies text line := by
    refine ⟨[], [], text, left, right, rfl, rfl, rfl, by simpa using lineEq, rfl,
      ?_⟩
    simp only [Segment.pointAt, segmentOf]
    omega
  rcases List.append_eq_append_iff.mp behind with
    ⟨beyond, skippedEq, _⟩ | ⟨right, lineEq, _⟩
  · have length := congrArg byteLength skippedEq
    rw [byteLength_append] at length
    exact point (List.append_nil line.chars).symm (by omega)
  · have length := congrArg byteLength lineEq
    rw [byteLength_append] at length
    exact point lineEq (by omega)

/-- Every piece of a text is copied from a line of the body. -/
theorem exists_copies
    (chars : body.chars = before ++ text ++ after)
    {piece : Piece}
    (member : piece ∈ (body.textAt before text).pieces) :
    ∃ line ∈ body.lines, piece.Copies text line := by
  obtain ⟨earlier, line, later, split, clipped | ⟨notBehind, rfl⟩⟩ :=
    mem_pieces_cases member
  · exact ⟨line, by simp [split], copies_of_clip? chars split clipped⟩
  · exact ⟨line, by simp [split], copies_pointAt chars split notBehind⟩

/-- A text without a line break has one piece, which is all of it. -/
theorem exists_pieces_eq_singleton
    (chars : body.chars = before ++ text ++ after)
    (nonempty : text ≠ [])
    (noBreak : '\n' ∉ text) :
    ∃ line column, (body.textAt before text).pieces =
      [⟨0, byteLength text, line, column⟩] := by
  obtain ⟨c, more, textEq⟩ := List.exists_cons_of_ne_nil nonempty
  have head : text.head? = some c := by rw [textEq]; rfl
  have notBreak : c ≠ '\n' := by
    rintro rfl
    exact noBreak (by simp [textEq])
  have positive := byteLength_pos nonempty
  -- The text stands on one line, since it would have a break otherwise.
  obtain ⟨earlier, line, later, left, right, split, lineEq, position⟩ :
      ∃ earlier line later left right,
        body.lines = earlier ++ line :: later ∧
        line.chars = left ++ text ++ right ∧
        before ++ [] = joined earlier ++ left := by
    have alone : text = [] ++ text ++ [] := by simp
    rcases stretch_cases chars alone head notBreak with onLine | crosses
    · exact onLine
    · obtain ⟨_, _, _, _, _, _, _, _, _, _, crossing, _⟩ := crosses
      exact absurd (by simp [crossing]) noBreak
  have positions := congrArg byteLength position
  have lineLength := congrArg byteLength lineEq
  simp only [byteLength_append, byteLength_nil] at positions lineLength
  have found : (body.textAt before text).pieceAt? 0 =
      some (pieceOn (byteLength (joined earlier)) line before text) :=
    pieceAt?_textAt split (by omega) (by omega) positive
  have whole : pieceOn (byteLength (joined earlier)) line before text =
      ⟨0, byteLength text, line.line, line.column + byteLength left⟩ := by
    simp only [pieceOn, Piece.mk.injEq, true_and]
    omega
  rw [whole] at found
  have member : (⟨0, byteLength text, line.line,
      line.column + byteLength left⟩ : Piece) ∈
        (body.textAt before text).pieces :=
    List.mem_reverse.mp (List.mem_of_find?_eq_some found)
  refine ⟨line.line, line.column + byteLength left, ?_⟩
  -- No other piece has room in front of this one or behind it.
  obtain ⟨front, back, pieces⟩ := List.append_of_mem member
  have apart := body.pairwise_pieces before text
  have inBounds : ∀ piece ∈ (body.textAt before text).pieces,
      piece.offset + piece.length ≤ byteLength text := by
    intro piece isPiece
    obtain ⟨_, _, front, part, _, _, _, rfl, offset, length, _⟩ :=
      exists_copies chars isPiece
    simp only [byteLength_append]
    omega
  rw [pieces] at apart inBounds ⊢
  obtain ⟨_, backApart, frontApart⟩ := List.pairwise_append.mp apart
  have noFront : front = [] := by
    apply List.eq_nil_iff_forall_not_mem.mpr
    intro other isOther
    have less := frontApart other isOther _ List.mem_cons_self
    exact absurd less (Nat.not_lt_zero _)
  have noBack : back = [] := by
    apply List.eq_nil_iff_forall_not_mem.mpr
    intro other isOther
    have less := (List.pairwise_cons.mp backApart).1 other isOther
    have bound := inBounds other (by simp [isOther])
    dsimp only at less
    omega
  rw [noFront, noBack, List.nil_append]

end Copied

end Body

/-! ## Texts of a comment -/

/-- A piece of a text is the part of a leading comment line at its line and
column. -/
def Piece.IsCopied
    (piece : Piece)
    (text : List Char)
    (comments : List CommentLine) : Prop :=
  ∃ front part back, text = front ++ part ++ back ∧
    piece.offset = byteLength front ∧ piece.length = byteLength part ∧
    ∃ comment ∈ comments, comment.leading = true ∧
      comment.HasAt part
        ⟨piece.line, piece.column, piece.column + piece.length⟩

/-- The pieces of a text follow each other, and each is copied from a leading
comment line. -/
structure TagText.IsTraced
    (text : TagText)
    (comments : List CommentLine) : Prop where
  increasing : text.pieces.Pairwise fun left right =>
    left.offset + left.length < right.offset
  copied : ∀ piece ∈ text.pieces, piece.IsCopied text.chars comments

/-- What is copied from a body line is copied from the comment line that it
ends. -/
theorem Piece.Copies.isCopied
    {piece : Piece}
    {text : List Char}
    {line : BodyLine}
    (copies : piece.Copies text line)
    {comment : CommentLine}
    (isEndOf : line.IsEndOf comment)
    {comments : List CommentLine}
    (member : comment ∈ comments)
    (leading : comment.leading = true) :
    piece.IsCopied text comments := by
  obtain ⟨front, part, back, left, right, textEq, offset, length, lineEq, number,
    column⟩ := copies
  refine ⟨front, part, back, textEq, offset, length, comment, member, leading, ?_⟩
  have hasAt := isEndOf.hasAt lineEq
  rwa [← number, ← column, ← length] at hasAt

/-- All texts that are parts of a tag's body are traced. -/
theorem TagText.IsPartOf.isTraced
    {comments : List CommentLine}
    {block : TagBlock}
    (isBlock : block ∈ TagBlock.ofComments comments)
    {text : TagText}
    (isPartOf : text.IsPartOf block.body) :
    text.IsTraced comments := by
  obtain ⟨cutting, ⟨after, chars⟩, rfl⟩ := isPartOf
  refine ⟨block.body.pairwise_pieces _ _, ?_⟩
  intro piece member
  obtain ⟨line, isLine, copies⟩ := Body.exists_copies chars member
  obtain ⟨comment, inComments, leading, isEndOf⟩ :=
    TagBlock.exists_isEndOf isBlock isLine
  rw [Body.cutting, Body.chars_textAt]
  exact copies.isCopied isEndOf inComments leading

end DocLint
