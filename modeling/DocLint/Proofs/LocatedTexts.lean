import DocLint.Proofs.TracedTexts

/-!
# Locating parts of a text in the source

A part of a text is located by the piece that its first byte lies in.  Every
byte of a text lies in one of the pieces, unless two comment lines were joined
there.  So a part is located exactly if it holds no such break, and what is
located are the same bytes of a comment line.  All of this is said of bytes: a
part may start or stop inside of a character.
-/

namespace DocLint

open Text

/-! ## Bytes of a text -/

namespace Text

/-- The bytes of a text between two positions. -/
def bytesBetween (text : String) (start stop : Nat) : ByteArray :=
  text.toUTF8.extract start stop

theorem size_utf8Encode (text : List Char) :
    text.utf8Encode.size = byteLength text := by
  induction text with
  | nil => rfl
  | cons c rest hypothesis =>
      rw [List.utf8Encode_cons, ByteArray.size_append, hypothesis,
        byteLength_cons, List.utf8Encode_singleton, List.size_toByteArray,
        String.length_utf8EncodeChar]

/-- What lies inside of a part of a text are bytes of that part. -/
theorem bytesBetween_of_split
    {text : String}
    {left part right : List Char}
    (split : text.toList = left ++ part ++ right)
    (start : Nat)
    {stop : Nat}
    (inside : stop ≤ byteLength part) :
    bytesBetween text (byteLength left + start) (byteLength left + stop) =
      part.utf8Encode.extract start stop := by
  have bytes : text.toUTF8 =
      left.utf8Encode ++ (part.utf8Encode ++ right.utf8Encode) := by
    rw [String.toUTF8_eq_toByteArray, ← String.ofList_toList (s := text),
      String.toByteArray_ofList, split, List.append_assoc,
      List.utf8Encode_append, List.utf8Encode_append]
  have noneBehind : right.utf8Encode.extract (start - byteLength part)
      (stop - byteLength part) = ByteArray.empty := by
    rw [Nat.sub_eq_zero_of_le inside]
    exact ByteArray.extract_eq_empty_iff.mpr (by simp)
  rw [bytesBetween, bytes, ← size_utf8Encode left,
    ByteArray.extract_append_size_add, ByteArray.extract_append,
    size_utf8Encode part, noneBehind, ByteArray.append_empty]

end Text

/-- A place has these bytes of a comment line. -/
structure CommentLine.HasBytes
    (comment : CommentLine)
    (bytes : ByteArray)
    (place : Place) : Prop where
  line : place.line = comment.line
  start : comment.column ≤ place.startColumn
  stop : place.endColumn ≤ comment.endColumn
  bytes : bytesBetween comment.text (place.startColumn - comment.column)
    (place.endColumn - comment.column) = bytes

/-! ## The piece at a position -/

/-- A position of a text lies in a piece. -/
def Piece.Holds (piece : Piece) (offset : Nat) : Prop :=
  piece.offset ≤ offset ∧ offset < piece.offset + piece.length

namespace TagText

theorem pieceAt?_eq_some
    {text : TagText}
    {offset : Nat}
    {piece : Piece}
    (found : text.pieceAt? offset = some piece) :
    piece ∈ text.pieces ∧ piece.offset ≤ offset :=
  ⟨List.mem_reverse.mp (List.mem_of_find?_eq_some found),
    by simpa using List.find?_some found⟩

/-- What is located is a part of the piece that it starts in. -/
theorem locate?_eq_some_iff
    {text : TagText}
    {start stop : Nat}
    {place : Place} :
    text.locate? start stop = some place ↔
      ∃ piece, text.pieceAt? start = some piece ∧
        stop ≤ piece.offset + piece.length ∧
        place = ⟨piece.line, piece.column + (start - piece.offset),
          piece.column + (stop - piece.offset)⟩ := by
  unfold locate?
  cases found : text.pieceAt? start with
  | none => simp
  | some piece =>
      dsimp only
      split
      · simp only [reduceCtorEq, Option.some.injEq, exists_eq_left', false_iff]
        omega
      · rename_i inside
        simp only [Option.some.injEq, exists_eq_left', eq_comm (a := place)]
        exact ⟨fun same => ⟨Nat.le_of_not_lt inside, same⟩, And.right⟩

namespace IsTraced

variable {text : TagText}
variable {comments : List CommentLine}

/-- A position that lies in a piece is looked up there. -/
theorem pieceAt?_of_holds
    (traced : text.IsTraced comments)
    {piece : Piece}
    (member : piece ∈ text.pieces)
    {offset : Nat}
    (holds : piece.Holds offset) :
    text.pieceAt? offset = some piece := by
  obtain ⟨front, back, pieces⟩ := List.append_of_mem member
  have apart := traced.increasing
  rw [pieces] at apart
  rw [pieceAt?, pieces]
  apply Body.find?_reverse_of_split
  · exact decide_eq_true holds.1
  · -- All further pieces start behind the end of this one.
    intro other isOther
    have behind :=
      (List.pairwise_cons.mp (List.pairwise_append.mp apart).2.1).1 other isOther
    have upper := holds.2
    simp only [decide_eq_false_iff_not]
    omega

/-- What is located are the bytes of the part. -/
theorem hasBytes
    (traced : text.IsTraced comments)
    {start stop : Nat}
    (ordered : start ≤ stop)
    {place : Place}
    (located : text.locate? start stop = some place) :
    place.endColumn = place.startColumn + (stop - start) ∧
      ∃ comment ∈ comments, comment.leading = true ∧
        comment.HasBytes (bytesBetween text.text start stop) place := by
  obtain ⟨piece, found, inside, rfl⟩ := locate?_eq_some_iff.mp located
  obtain ⟨member, notBehind⟩ := pieceAt?_eq_some found
  obtain ⟨front, part, back, textEq, offset, length, comment, inComments, leading,
    left, right, commentEq, placeEq⟩ := traced.copied piece member
  obtain ⟨lineEq, columnEq, _⟩ := Span.mk.inj placeEq
  have room : stop - piece.offset ≤ byteLength part := by omega
  have commentLength := congrArg byteLength commentEq
  simp only [byteLength_append] at commentLength
  refine ⟨?_, comment, inComments, leading, lineEq, ?_, ?_, ?_⟩
  · dsimp only
    omega
  · dsimp only
    omega
  · simp only [CommentLine.endColumn]
    omega
  · have ofText := bytesBetween_of_split textEq (start - piece.offset) room
    have ofComment :=
      bytesBetween_of_split commentEq (start - piece.offset) room
    rw [← offset, Nat.add_sub_cancel' notBehind,
      Nat.add_sub_cancel' (Nat.le_trans notBehind ordered)] at ofText
    rw [ofText, ← ofComment, columnEq]
    dsimp only
    congr 1
    · omega
    · omega

end IsTraced

end TagText

/-! ## Positions of a body -/

namespace Body

/-- A position of a text lies on one of its lines, or two of them were joined
there. -/
theorem line_or_join_of_following
    (line : BodyLine)
    (rest : List BodyLine)
    {position : Nat}
    (inside : position < byteLength (line.chars ++ following rest)) :
    (∃ earlier found later, line :: rest = earlier ++ found :: later ∧
      byteLength (joined earlier) ≤ position ∧
      position < byteLength (joined earlier) + byteLength found.chars) ∨
    (∃ earlier found next later,
      line :: rest = earlier ++ found :: next :: later ∧
      position = byteLength (joined earlier ++ found.chars)) := by
  induction rest generalizing line position with
  | nil =>
      rw [following, List.flatMap_nil, List.append_nil] at inside
      refine Or.inl ⟨[], line, [], rfl, Nat.zero_le _, ?_⟩
      simpa [joined] using inside
  | cons next rest hypothesis =>
      rw [byteLength_append, following_cons, byteLength_append, byteLength_cons,
        break_size] at inside
      rcases Nat.lt_trichotomy position (byteLength line.chars) with
        onLine | atJoin | behind
      · refine Or.inl ⟨[], line, next :: rest, rfl, Nat.zero_le _, ?_⟩
        simpa [joined] using onLine
      · exact Or.inr ⟨[], line, next, rest, rfl, by simpa [joined] using atJoin⟩
      · -- The position is counted from the start of the next line.
        obtain ⟨further, rfl⟩ := Nat.exists_eq_add_of_lt behind
        have moved (earlier : List BodyLine) :
            byteLength (joined (line :: earlier)) =
              byteLength line.chars + byteLength (joined earlier) + 1 := by
          rw [joined_cons, byteLength_append, byteLength_cons, break_size]
          omega
        have furtherInside :
            further < byteLength (next.chars ++ following rest) := by
          rw [byteLength_append]
          omega
        rcases hypothesis next furtherInside with
          ⟨earlier, found, later, split, lower, upper⟩ |
          ⟨earlier, found, other, later, split, position⟩
        · refine Or.inl ⟨line :: earlier, found, later, ?_, ?_, ?_⟩
          · rw [split, List.cons_append]
          · rw [moved]
            omega
          · rw [moved]
            omega
        · refine Or.inr ⟨line :: earlier, found, other, later, ?_, ?_⟩
          · rw [split, List.cons_append]
          · rw [byteLength_append] at position ⊢
            rw [moved]
            omega

/-- A position of a body's text where no two lines were joined lies on a
line. -/
theorem exists_line_of_not_isJoin
    {body : Body}
    {position : Nat}
    (inside : position < byteLength body.chars)
    (notJoin : ¬ body.IsJoin position) :
    ∃ earlier line later, body.lines = earlier ++ line :: later ∧
      byteLength (joined earlier) ≤ position ∧
      position < byteLength (joined earlier) + byteLength line.chars :=
  (line_or_join_of_following body.firstLine body.otherLines inside).resolve_right
    notJoin

/-- A piece that is clipped from a line is what the line and the text share. -/
theorem bounds_of_clip?
    {line : BodyLine}
    {position start stop : Nat}
    {piece : Piece}
    (ordered : start ≤ stop)
    (clipped : (segmentOf position line).clip? start stop = some piece) :
    start + piece.offset = max start position ∧
      start + (piece.offset + piece.length) =
        min stop (position + byteLength line.chars) := by
  unfold Segment.clip? at clipped
  split at clipped
  · rename_i meets
    cases clipped
    simp only [segmentOf, Segment.stop] at meets ⊢
    omega
  · exact absurd clipped (by simp)

section Pieces

variable {body : Body}
variable {before text after : List Char}

/-- A piece that holds a position is clipped from one of the lines. -/
theorem exists_clip?_of_holds
    {piece : Piece}
    (member : piece ∈ (body.textAt before text).pieces)
    {offset : Nat}
    (holds : piece.Holds offset) :
    ∃ earlier line later, body.lines = earlier ++ line :: later ∧
      (segmentOf (byteLength (joined earlier)) line).clip? (byteLength before)
        (byteLength before + byteLength text) = some piece := by
  obtain ⟨earlier, line, later, split, clipped | ⟨_, rfl⟩⟩ :=
    mem_pieces_cases member
  · exact ⟨earlier, line, later, split, clipped⟩
  · -- A point is empty.
    obtain ⟨lower, upper⟩ := holds
    simp only [Segment.pointAt] at lower upper
    omega

/-- The pieces of a text hold all of its positions but those at which two lines
were joined. -/
theorem exists_holds_iff
    (chars : body.chars = before ++ text ++ after)
    (offset : Nat) :
    (∃ piece ∈ (body.textAt before text).pieces, piece.Holds offset) ↔
      offset < byteLength text ∧
        ¬ body.IsJoin (byteLength before + offset) := by
  constructor
  · rintro ⟨piece, member, holds⟩
    obtain ⟨earlier, line, later, split, clipped⟩ :=
      exists_clip?_of_holds member holds
    obtain ⟨first, last⟩ := bounds_of_clip? (Nat.le_add_right _ _) clipped
    obtain ⟨lower, upper⟩ := holds
    exact ⟨by omega, not_isJoin split (by omega) (by omega)⟩
  · rintro ⟨inside, notJoin⟩
    have inBody : byteLength before + offset < byteLength body.chars := by
      rw [chars, byteLength_append, byteLength_append]
      omega
    obtain ⟨earlier, line, later, split, lower, upper⟩ :=
      exists_line_of_not_isJoin inBody notJoin
    have found : (body.textAt before text).pieceAt? offset =
        some (pieceOn (byteLength (joined earlier)) line before text) :=
      pieceAt?_textAt split lower upper inside
    refine ⟨_, (TagText.pieceAt?_eq_some found).1, ?_⟩
    simp only [Piece.Holds, pieceOn]
    omega

/-- A piece ends with the text, or where its line was joined to the next one. -/
theorem stop_of_holds
    (chars : body.chars = before ++ text ++ after)
    {piece : Piece}
    (member : piece ∈ (body.textAt before text).pieces)
    {offset : Nat}
    (holds : piece.Holds offset) :
    piece.offset + piece.length = byteLength text ∨
      piece.offset + piece.length < byteLength text ∧
        body.IsJoin (byteLength before + (piece.offset + piece.length)) := by
  obtain ⟨earlier, line, later, split, clipped⟩ :=
    exists_clip?_of_holds member holds
  obtain ⟨_, last⟩ := bounds_of_clip? (Nat.le_add_right _ _) clipped
  rcases Nat.lt_or_ge (piece.offset + piece.length) (byteLength text) with
    inside | atEnd
  · have whole := congrArg byteLength (chars_of_lines split)
    rw [chars] at whole
    simp only [byteLength_append] at whole
    refine Or.inr ⟨inside, ?_⟩
    cases later with
    | nil =>
        simp only [following, List.flatMap_nil, byteLength_nil] at whole
        omega
    | cons next others =>
        refine ⟨earlier, line, next, others, split, ?_⟩
        rw [byteLength_append]
        omega
  · exact Or.inl (by omega)

/-- A part of a text is not located exactly if two lines were joined in it. -/
theorem locate?_eq_none_iff
    (chars : body.chars = before ++ text ++ after)
    {comments : List CommentLine}
    (traced : (body.textAt before text).IsTraced comments)
    {start stop : Nat}
    (nonempty : start < stop)
    (inText : stop ≤ byteLength text) :
    (body.textAt before text).locate? start stop = none ↔
      body.Crosses (byteLength before + start) (byteLength before + stop) := by
  constructor
  · intro notLocated
    by_contra notCrossing
    have startsOnLine : ¬ body.IsJoin (byteLength before + start) :=
      fun isJoin => notCrossing ⟨_, isJoin, Nat.le_refl _, by omega⟩
    obtain ⟨piece, member, holds⟩ :=
      (exists_holds_iff chars start).mpr ⟨by omega, startsOnLine⟩
    have ⟨lower, upper⟩ := holds
    have inPiece : stop ≤ piece.offset + piece.length := by
      rcases stop_of_holds chars member holds with atEnd | ⟨_, isJoin⟩
      · omega
      · -- The part would go on behind the break that ends the piece.
        by_contra longer
        exact notCrossing ⟨_, isJoin, by omega, by omega⟩
    have located := TagText.locate?_eq_some_iff.mpr
      ⟨piece, traced.pieceAt?_of_holds member holds, inPiece, rfl⟩
    exact absurd (notLocated.symm.trans located) (by simp)
  · rintro ⟨join, isJoin, lower, upper⟩
    obtain ⟨offset, rfl⟩ := Nat.exists_eq_add_of_le
      (Nat.le_trans (Nat.le_add_right (byteLength before) start) lower)
    by_contra located
    obtain ⟨place, isPlace⟩ := Option.ne_none_iff_exists'.mp located
    obtain ⟨piece, found, inside, _⟩ := TagText.locate?_eq_some_iff.mp isPlace
    obtain ⟨member, notBehind⟩ := TagText.pieceAt?_eq_some found
    -- The piece that the part lies in would hold the break.
    have holds : piece.Holds offset := ⟨by omega, by omega⟩
    exact ((exists_holds_iff chars offset).mp ⟨piece, member, holds⟩).2 isJoin

end Pieces

end Body

/-! ## Texts of tags -/

/-- How the parts of a text are located, when the text starts at a byte position
of a body. -/
structure TagText.IsLocated
    (text : TagText)
    (comments : List CommentLine)
    (body : Body)
    (position : Nat) : Prop where
  /-- What is located is as long as the part, and has the bytes of the part on a
  leading comment line. -/
  faithful : ∀ start stop place, start ≤ stop →
    stop ≤ byteLength text.chars → text.locate? start stop = some place →
      place.endColumn = place.startColumn + (stop - start) ∧
        ∃ comment ∈ comments, comment.leading = true ∧
          comment.HasBytes (bytesBetween text.text start stop) place
  /-- Only what holds a break between two comment lines is not located. -/
  complete : ∀ start stop, start < stop → stop ≤ byteLength text.chars →
    (text.locate? start stop = none ↔
      body.Crosses (position + start) (position + stop))
  /-- The pieces leave out the breaks only. -/
  held : ∀ offset, (∃ piece ∈ text.pieces, piece.Holds offset) ↔
    offset < byteLength text.chars ∧ ¬ body.IsJoin (position + offset)
  /-- To the end of a line is to the next break, or to the end of the text. -/
  toLineEnd : ∀ piece ∈ text.pieces, ∀ offset, piece.Holds offset →
    text.locate? offset (piece.offset + piece.length) =
        some (text.locateToLineEnd offset) ∧
      (piece.offset + piece.length = byteLength text.chars ∨
        piece.offset + piece.length < byteLength text.chars ∧
          body.IsJoin (position + (piece.offset + piece.length)))

/-- A position in a piece is located together with all that follows it there. -/
theorem TagText.IsTraced.locateToLineEnd_of_holds
    {text : TagText}
    {comments : List CommentLine}
    (traced : text.IsTraced comments)
    {piece : Piece}
    (member : piece ∈ text.pieces)
    {offset : Nat}
    (holds : piece.Holds offset) :
    text.locate? offset (piece.offset + piece.length) =
      some (text.locateToLineEnd offset) := by
  have found := traced.pieceAt?_of_holds member holds
  obtain ⟨lower, upper⟩ := holds
  have room : offset - piece.offset ≤ piece.length := by omega
  rw [locate?_eq_some_iff]
  refine ⟨piece, found, Nat.le_refl _, ?_⟩
  rw [locateToLineEnd, found]
  dsimp only
  rw [Nat.min_eq_left room, Nat.add_sub_cancel_left]

theorem Body.isLocated_textAt
    {body : Body}
    {before text after : List Char}
    (chars : body.chars = before ++ text ++ after)
    {comments : List CommentLine}
    (traced : (body.textAt before text).IsTraced comments) :
    (body.textAt before text).IsLocated comments body (byteLength before) where
  faithful := fun _ _ _ ordered _ located => traced.hasBytes ordered located
  complete := by
    rw [Body.chars_textAt]
    exact fun _ _ => Body.locate?_eq_none_iff chars traced
  held := by
    rw [Body.chars_textAt]
    exact Body.exists_holds_iff chars
  toLineEnd := by
    rw [Body.chars_textAt]
    intro piece member offset holds
    exact ⟨traced.locateToLineEnd_of_holds member holds,
      Body.stop_of_holds chars member holds⟩

/-- Every text that is read from a tag stands in the body of the tag, and its
parts are located as they stand there: a part is found on a comment line with
all of its bytes, unless it holds a break between two lines. -/
theorem Tag.isLocated_of_mem_extract
    {comments : List CommentLine}
    {tag : Tag}
    (member : tag ∈ extract comments)
    {text : TagText}
    (isText : tag.name = some text ∨ tag.key = some text ∨
      tag.types = some text ∨ tag.misplacedTypes = some text) :
    ∃ block ∈ TagBlock.ofComments comments, block.tag = tag ∧
      ∃ before after,
        block.body.chars = before ++ text.chars ++ after ∧
        block.body.textAt before text.chars = text ∧
        text.IsLocated comments block.body (byteLength before) := by
  obtain ⟨block, isBlock, rfl⟩ := TagBlock.exists_of_mem_extract member
  have areOf : block.tag.fields.AreOf block.body := areOf_ofBody _ _ _
  have isPartOf : text.IsPartOf block.body := by
    rcases isText with isName | isKey | areTypes | areMisplaced
    · exact areOf.name text isName
    · exact areOf.key text isKey
    · exact areOf.types text areTypes
    · exact areOf.misplacedTypes text areMisplaced
  have traced := isPartOf.isTraced isBlock
  obtain ⟨cutting, ⟨after, chars⟩, rfl⟩ := isPartOf
  rw [Body.cutting] at traced ⊢
  refine ⟨block, isBlock, rfl, cutting.before, after, ?_, ?_,
    Body.isLocated_textAt chars traced⟩
  · rw [Body.chars_textAt, chars]
  · rw [Body.chars_textAt]

/-- Types that start with the break behind their opening bracket, and go on over
two lines more.  A line that trails code stands between these. -/
def Tag.openedAtLineEnd : List CommentLine :=
  [⟨7, 4, "# @option opts [", true⟩, ⟨8, 4, "#   Set<é>,", true⟩,
    ⟨8, 30, "# no", false⟩, ⟨9, 4, "#   nil] :key", true⟩]

/-- The first piece of the types does not start at their first byte.  The second
byte of a character is located, and a part that holds the first break is not. -/
theorem Tag.isLocated_opened_at_line_end :
    ∃ tag types, extract openedAtLineEnd = [tag] ∧ tag.types = some types ∧
      types.pieces = [⟨1, 10, 8, 6⟩, ⟨12, 5, 9, 6⟩] ∧
      types.locate? 8 9 = some ⟨8, 13, 14⟩ ∧ types.locate? 0 2 = none ∧
      types.locateToLineEnd 8 = ⟨8, 13, 16⟩ ∧
      ∃ block ∈ TagBlock.ofComments openedAtLineEnd, block.tag = tag ∧
        ∃ before after,
          block.body.chars = before ++ types.chars ++ after ∧
          block.body.textAt before types.chars = types ∧
          types.IsLocated openedAtLineEnd block.body (byteLength before) := by
  have read : (extract openedAtLineEnd).map Tag.types =
      [some ⟨"\n  Set<é>,\n  nil", ⟨1, 10, 8, 6⟩, [⟨12, 5, 9, 6⟩]⟩] := by
    decide +kernel
  obtain ⟨tag, single, types⟩ := List.map_eq_singleton_iff.mp read
  have member : tag ∈ extract openedAtLineEnd := by simp [single]
  exact ⟨tag, _, single, types, rfl, by decide, by decide, by decide,
    isLocated_of_mem_extract member (Or.inr (Or.inr (Or.inl types)))⟩

end DocLint
