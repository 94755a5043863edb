import DocLint.Tag.Body
import Mathlib.Data.List.Basic

/-!
# Where the text of a body stands

The text of a body is its lines with a line break between two of them.  A
character that is not a break belongs to one line, and the place that is found
for it is its column on that line.  A stretch of the text is found on one source
line exactly when it crosses no break.
-/

namespace DocLint

open Text

theorem byteLength_pos
    {text : List Char}
    (nonempty : text ≠ []) :
    0 < byteLength text := by
  cases text with
  | nil => exact absurd rfl nonempty
  | cons c rest =>
      have positive := c.utf8Size_pos
      rw [byteLength_cons]
      omega

namespace Body

/-! ## Lines and breaks -/

/-- All lines of a body. -/
def lines (body : Body) : List BodyLine :=
  body.firstLine :: body.otherLines

/-- The text of lines that another line follows. -/
def joined (lines : List BodyLine) : List Char :=
  lines.flatMap fun line => line.chars ++ ['\n']

/-- The text of lines that follow another line. -/
def following (lines : List BodyLine) : List Char :=
  lines.flatMap fun line => '\n' :: line.chars

theorem joined_cons (line : BodyLine) (rest : List BodyLine) :
    joined (line :: rest) = line.chars ++ '\n' :: joined rest := by
  simp [joined]

theorem following_cons (line : BodyLine) (rest : List BodyLine) :
    following (line :: rest) = '\n' :: line.chars ++ following rest := by
  simp [following]

theorem following_append (left right : List BodyLine) :
    following (left ++ right) = following left ++ following right := by
  simp [following]

/-- A break behind each line or in front of each line is the same text. -/
theorem following_concat_break (lines : List BodyLine) :
    following lines ++ ['\n'] = '\n' :: joined lines := by
  induction lines with
  | nil => rfl
  | cons line rest hypothesis =>
      rw [following_cons, List.append_assoc, hypothesis, joined_cons]
      rfl

theorem chars_eq (body : Body) :
    body.chars = body.firstLine.chars ++ following body.otherLines := rfl

/-- The text of a body, seen from one of its lines. -/
theorem chars_of_lines
    {body : Body}
    {earlier later : List BodyLine}
    {line : BodyLine}
    (split : body.lines = earlier ++ line :: later) :
    body.chars = joined earlier ++ (line.chars ++ following later) := by
  rw [chars_eq]
  cases earlier with
  | nil =>
      obtain ⟨rfl, rfl⟩ := List.cons.inj split
      rfl
  | cons first middle =>
      rw [List.cons_append] at split
      obtain ⟨first_eq, others⟩ := List.cons.inj split
      have breaks := following_concat_break middle
      calc body.firstLine.chars ++ following body.otherLines
          = first.chars ++ (following middle ++ ['\n']) ++
              (line.chars ++ following later) := by
            rw [first_eq, others, following_append, following_cons]
            simp
        _ = joined (first :: middle) ++ (line.chars ++ following later) := by
            rw [breaks, joined_cons]

/-- A character that is no break belongs to one of the lines. -/
theorem exists_line_of_following
    {line : BodyLine}
    {rest : List BodyLine}
    {before after : List Char}
    {c : Char}
    (text : line.chars ++ following rest = before ++ c :: after)
    (notBreak : c ≠ '\n') :
    ∃ earlier found later left right,
      line :: rest = earlier ++ found :: later ∧
      found.chars = left ++ c :: right ∧ before = joined earlier ++ left := by
  induction rest generalizing line before with
  | nil =>
      rw [following, List.flatMap_nil, List.append_nil] at text
      exact ⟨[], line, [], before, after, rfl, text, rfl⟩
  | cons next rest hypothesis =>
      rcases List.append_eq_append_iff.mp text with
        ⟨beyond, rfl, behind⟩ | ⟨inside, lineEq, behind⟩
      · -- The character stands behind the break that ends the line.
        rw [following_cons] at behind
        cases beyond with
        | nil => exact absurd (List.cons.inj behind).1.symm notBreak
        | cons d more =>
            obtain ⟨rfl, moreEq⟩ := List.cons.inj behind
            obtain ⟨earlier, found, later, left, right, split, foundEq, rfl⟩ :=
              hypothesis moreEq
            refine ⟨line :: earlier, found, later, left, right, ?_, foundEq, ?_⟩
            · rw [split, List.cons_append]
            · rw [joined_cons]
              simp
      · cases inside with
        | nil =>
            rw [List.nil_append, following_cons] at behind
            exact absurd (List.cons.inj behind).1 notBreak
        | cons d more =>
            obtain ⟨rfl, _⟩ := List.cons.inj behind
            exact ⟨[], line, next :: rest, before, more, rfl, lineEq, rfl⟩

theorem exists_line
    {body : Body}
    {before after : List Char}
    {c : Char}
    (text : body.chars = before ++ c :: after)
    (notBreak : c ≠ '\n') :
    ∃ earlier line later left right,
      body.lines = earlier ++ line :: later ∧
      line.chars = left ++ c :: right ∧ before = joined earlier ++ left :=
  exists_line_of_following text notBreak

/-- A byte position of the text at which a line break stands between two
lines. -/
def IsJoin (body : Body) (position : Nat) : Prop :=
  ∃ earlier line next later, body.lines = earlier ++ line :: next :: later ∧
    position = byteLength (joined earlier ++ line.chars)

theorem joined_append (left right : List BodyLine) :
    joined (left ++ right) = joined left ++ joined right := by
  simp [joined]

/-- No byte of a line is a break between lines. -/
theorem not_isJoin
    {body : Body}
    {earlier later : List BodyLine}
    {line : BodyLine}
    (split : body.lines = earlier ++ line :: later)
    {position : Nat}
    (lower : byteLength (joined earlier) ≤ position)
    (upper : position < byteLength (joined earlier) + byteLength line.chars) :
    ¬ body.IsJoin position := by
  rintro ⟨others, other, next, rest, otherSplit, rfl⟩
  rw [byteLength_append] at lower upper
  rw [split] at otherSplit
  rcases List.append_eq_append_iff.mp otherSplit with
    ⟨between, rfl, behind⟩ | ⟨between, rfl, behind⟩
  · -- The break does not stand in front of the line.
    rw [joined_append, byteLength_append] at upper
    cases between with
    | nil =>
        obtain ⟨rfl, _⟩ := List.cons.inj behind
        simp only [joined, List.flatMap_nil, byteLength_nil] at upper
        omega
    | cons first more =>
        obtain ⟨rfl, _⟩ := List.cons.inj behind
        rw [joined_cons, byteLength_append] at upper
        omega
  · -- The break does not stand behind the line.
    cases between with
    | nil =>
        obtain ⟨rfl, _⟩ := List.cons.inj behind
        rw [List.append_nil] at upper
        omega
    | cons first more =>
        obtain ⟨rfl, _⟩ := List.cons.inj behind
        rw [joined_append, joined_cons, byteLength_append, byteLength_append,
          byteLength_cons] at lower
        have breakSize := Char.utf8Size_pos '\n'
        omega

/-! ## Segments -/

theorem break_size : '\n'.utf8Size = 1 := by
  decide

theorem segmentsFrom_append
    (start : Nat)
    (earlier later : List BodyLine) :
    segmentsFrom start (earlier ++ later) =
      segmentsFrom start earlier ++
        segmentsFrom (start + byteLength (joined earlier)) later := by
  induction earlier generalizing start with
  | nil => simp [segmentsFrom, joined]
  | cons line rest hypothesis =>
      have moved : start + byteLength line.chars + 1 +
          byteLength (joined rest) =
            start + byteLength (joined (line :: rest)) := by
        rw [joined_cons, byteLength_append, byteLength_cons, break_size]
        omega
      rw [List.cons_append, segmentsFrom, hypothesis, moved]
      rfl

theorem start_le_of_mem_segmentsFrom
    {start : Nat}
    {lines : List BodyLine}
    {segment : Segment}
    (member : segment ∈ segmentsFrom start lines) :
    start ≤ segment.start := by
  induction lines generalizing start with
  | nil => simp [segmentsFrom] at member
  | cons line rest hypothesis =>
      rw [segmentsFrom, List.mem_cons] at member
      rcases member with rfl | member
      · exact Nat.le_refl _
      · have later := hypothesis member
        omega

/-! ## Pieces -/

/-- The pieces of the stretch from `start` to `stop` in some segments. -/
def clips (start stop : Nat) (segments : List Segment) : List Piece :=
  segments.filterMap fun segment => segment.clip? start stop

theorem clips_split
    {start stop : Nat}
    {segment : Segment}
    {piece : Piece}
    (clipped : segment.clip? start stop = some piece)
    (front back : List Segment) :
    clips start stop (front ++ segment :: back) =
      clips start stop front ++ piece :: clips start stop back := by
  simp [clips, clipped]

theorem offset_of_clip?
    {segment : Segment}
    {start stop : Nat}
    {piece : Piece}
    (clipped : segment.clip? start stop = some piece) :
    piece.offset = max start segment.start - start := by
  unfold Segment.clip? at clipped
  split at clipped
  · cases clipped
    rfl
  · exact absurd clipped (by simp)

/-- A text with a piece at all has the pieces that it covers. -/
theorem pieces_textAt
    {body : Body}
    {before text : List Char}
    (nonempty : clips (byteLength before) (byteLength before + byteLength text)
      body.segments ≠ []) :
    (body.textAt before text).pieces =
      clips (byteLength before) (byteLength before + byteLength text)
        body.segments := by
  unfold textAt
  dsimp only
  split
  · rename_i empty
    exact absurd empty nonempty
  · rename_i first others found
    rw [clips, found]
    rfl

theorem text_textAt (body : Body) (before text : List Char) :
    (body.textAt before text).text = String.ofList text := by
  unfold textAt
  dsimp only
  split <;> rfl

theorem find?_reverse_of_split
    {α : Type}
    {holds : α → Bool}
    {front back : List α}
    {item : α}
    (itemHolds : holds item = true)
    (backFails : ∀ other ∈ back, holds other = false) :
    (front ++ item :: back).reverse.find? holds = some item := by
  have none : back.reverse.find? holds = none := by
    rw [List.find?_eq_none]
    intro other member
    simp [backFails other (List.mem_reverse.mp member)]
  rw [List.reverse_append, List.reverse_cons, List.append_assoc,
    List.find?_append, none, Option.none_or, List.cons_append,
    List.find?_cons_of_pos itemHolds]

/-- The piece of a text on one of the lines of its body. -/
def pieceOn
    (lineStart : Nat)
    (line : BodyLine)
    (before text : List Char) : Piece where
  offset := max (byteLength before) lineStart - byteLength before
  length :=
    min (byteLength before + byteLength text)
        (lineStart + byteLength line.chars) -
      max (byteLength before) lineStart
  line := line.line
  column := line.column + (max (byteLength before) lineStart - lineStart)

section Located

variable {body : Body}
variable {earlier later : List BodyLine}
variable {line : BodyLine}
variable {before text : List Char}

/-- A byte of a text is looked up in the piece on its own line. -/
theorem pieceAt?_textAt
    (split : body.lines = earlier ++ line :: later)
    {offset : Nat}
    (lower : byteLength (joined earlier) ≤ byteLength before + offset)
    (upper : byteLength before + offset <
      byteLength (joined earlier) + byteLength line.chars)
    (inside : offset < byteLength text) :
    (body.textAt before text).pieceAt? offset =
      some (pieceOn (byteLength (joined earlier)) line before text) := by
  have clipped : (segmentOf (byteLength (joined earlier)) line).clip?
      (byteLength before) (byteLength before + byteLength text) =
        some (pieceOn (byteLength (joined earlier)) line before text) := by
    apply if_pos
    constructor
    · show byteLength (joined earlier) < _
      omega
    · show _ < byteLength (joined earlier) + byteLength line.chars
      omega
  obtain ⟨front, back, pieces, beyond⟩ : ∃ front back,
      clips (byteLength before) (byteLength before + byteLength text)
          body.segments =
        front ++ pieceOn (byteLength (joined earlier)) line before text ::
          back ∧
      ∀ piece ∈ back, ¬ piece.offset ≤ offset := by
    have segments : body.segments = segmentsFrom 0 body.lines := rfl
    rw [segments, split, segmentsFrom_append, Nat.zero_add, segmentsFrom,
      clips_split clipped]
    refine ⟨_, _, rfl, ?_⟩
    -- Every later line starts behind the byte, and so does its piece.
    intro piece member
    obtain ⟨segment, segmentMember, found⟩ := List.mem_filterMap.mp member
    have start := start_le_of_mem_segmentsFrom segmentMember
    rw [offset_of_clip? found]
    omega
  rw [TagText.pieceAt?, pieces_textAt (by simp [pieces]), pieces]
  apply find?_reverse_of_split
  · apply decide_eq_true
    simp only [pieceOn]
    omega
  · intro piece member
    simpa using beyond piece member

/-- A stretch that ends on the line where it starts is found there. -/
theorem locate?_textAt
    (split : body.lines = earlier ++ line :: later)
    {start stop column : Nat}
    (position : byteLength before + start =
      byteLength (joined earlier) + column)
    (nonempty : start < stop)
    (inText : stop ≤ byteLength text)
    (inLine : column + (stop - start) ≤ byteLength line.chars) :
    (body.textAt before text).locate? start stop =
      some ⟨line.line, line.column + column,
        line.column + column + (stop - start)⟩ := by
  rw [TagText.locate?, pieceAt?_textAt split (by omega) (by omega) (by omega)]
  dsimp only
  rw [if_neg]
  · simp only [pieceOn]
    congr 2
    · omega
    · omega
  · simp only [pieceOn]
    omega

/-- A stretch that goes on behind the line where it starts is found nowhere; up
to the end of that line it is. -/
theorem locate?_textAt_eq_none
    (split : body.lines = earlier ++ line :: later)
    {start stop column : Nat}
    (position : byteLength before + start =
      byteLength (joined earlier) + column)
    (inLine : column < byteLength line.chars)
    (inText : stop ≤ byteLength text)
    (crosses : byteLength line.chars < column + (stop - start)) :
    (body.textAt before text).locate? start stop = none ∧
      (body.textAt before text).locateToLineEnd start =
        ⟨line.line, line.column + column,
          line.column + byteLength line.chars⟩ := by
  have found : (body.textAt before text).pieceAt? start =
      some (pieceOn (byteLength (joined earlier)) line before text) :=
    pieceAt?_textAt split (by omega) (by omega) (by omega)
  rw [TagText.locate?, TagText.locateToLineEnd, found]
  dsimp only
  constructor
  · rw [if_pos]
    simp only [pieceOn]
    omega
  · simp only [pieceOn]
    congr 1
    · omega
    · omega

/-- A stretch of a text that does not start with a break stands on one line, or
goes on behind the break that ends its first line. -/
theorem stretch_cases
    {after front raw back : List Char}
    (chars : body.chars = before ++ text ++ after)
    (textEq : text = front ++ raw ++ back)
    {c : Char}
    (head : raw.head? = some c)
    (notBreak : c ≠ '\n') :
    (∃ earlier line later left right,
      body.lines = earlier ++ line :: later ∧
      line.chars = left ++ raw ++ right ∧
      before ++ front = joined earlier ++ left) ∨
    (∃ earlier line next later left right rest,
      body.lines = earlier ++ line :: next :: later ∧
      line.chars = left ++ right ∧ right ≠ [] ∧
      raw = right ++ '\n' :: rest ∧
      before ++ front = joined earlier ++ left) := by
  cases raw with
  | nil => exact absurd head (by simp)
  | cons d more =>
      obtain rfl : d = c := Option.some.inj head
      have located : body.chars =
          (before ++ front) ++ d :: (more ++ back ++ after) := by
        rw [chars, textEq]
        simp
      obtain ⟨earlier, line, later, left, right, split, lineEq, position⟩ :=
        exists_line located notBreak
      -- Both sides of the text from the stretch on.
      have behind : (d :: right) ++ following later =
          (d :: more) ++ (back ++ after) := by
        have whole := chars_of_lines split
        rw [located, position, lineEq] at whole
        simpa using whole.symm
      rcases List.append_eq_append_iff.mp behind with
        ⟨beyond, rawEq, rest⟩ | ⟨tail, lineRest, _⟩
      · cases beyond with
        | nil =>
            refine Or.inl ⟨earlier, line, later, left, [], split, ?_, position⟩
            rw [lineEq, rawEq]
            simp
        | cons e others =>
            cases later with
            | nil => exact absurd rest (by simp [following])
            | cons next others' =>
                rw [following_cons] at rest
                obtain ⟨rfl, _⟩ := List.cons.inj rest
                exact Or.inr ⟨earlier, line, next, others', left, d :: right,
                  others, split, lineEq, by simp, rawEq, position⟩
      · refine Or.inl ⟨earlier, line, later, left, tail, split, ?_, position⟩
        rw [lineEq, lineRest]
        simp

end Located

end Body
end DocLint
