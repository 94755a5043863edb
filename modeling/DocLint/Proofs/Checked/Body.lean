import DocLint.Proofs.BodyPlaces
import DocLint.Proofs.Checked.Cuts

/-!
# Bodies with byte positions

The body of a tag is collected line by line into one text, together with the
segment of the text that each line gives.  A part of the text is named by two
byte positions.  The pieces of a part are found by cutting the segments that it
covers, and each piece is moved from the text to the column of its line.
-/

namespace DocLint
namespace Checked

open Text

/-- The text of a body as far as it is collected, with the segments of its
lines. -/
structure Buffer where
  chars : List Char
  segments : List Segment
  deriving DecidableEq, Repr

namespace Buffer

/-- The text without any line. -/
def empty : Buffer := ⟨[], []⟩

/-- Add a line.  A line break stands between two of them. -/
def push (buffer : Buffer) (line : BodyLine) : Buffer :=
  let chars :=
    if buffer.segments.isEmpty then buffer.chars else buffer.chars ++ ['\n']
  { chars := chars ++ line.chars
    segments := buffer.segments ++ [Body.segmentOf (byteLength chars) line] }

/-- The last segment that starts at or before a byte position. -/
def segmentAt (buffer : Buffer) (offset : Nat) : Except Fault Segment := do
  let first ← firstItem buffer.segments
  return (buffer.segments.reverse.find? fun segment =>
    decide (segment.start ≤ offset)).getD first

/-- The piece of the stretch from `start` to `stop` that lies in a segment. -/
def clip (start stop : Nat) (segment : Segment) : Except Fault Piece := do
  let pieceStart := max start segment.start
  let pieceStop := min stop segment.stop
  let offset ← subtract pieceStart start
  let length ← subtract pieceStop pieceStart
  let column ← subtract (segment.column + pieceStart) segment.start
  return ⟨offset, length, segment.line, column⟩

/-- The text between two byte positions, with its pieces. -/
def textAt (buffer : Buffer) (start stop : Nat) : Except Fault TagText := do
  let covered := buffer.segments.filter fun segment =>
    decide (segment.start < stop ∧ start < segment.stop)
  let clipped ← covered.mapM (clip start stop)
  let pieces ←
    if clipped.isEmpty then do
      let segment ← buffer.segmentAt start
      pure [segment.pointAt start]
    else
      pure clipped
  let first ← firstItem pieces
  let text ← partBetween buffer.chars start stop
  return ⟨String.ofList text, first, pieces.tail⟩

/-! ## Lines that are collected -/

/-- The text of a whole body. -/
def ofBody (body : Body) : Buffer :=
  ⟨body.chars, body.segments⟩

@[simp] theorem chars_ofBody (body : Body) :
    (ofBody body).chars = body.chars := rfl

theorem push_empty (line : BodyLine) :
    empty.push line = ofBody ⟨line, []⟩ := by
  simp [push, empty, ofBody, Body.chars, Body.segments, Body.segmentsFrom]

/-- Adding a line to the text of a body gives the body with that line. -/
theorem push_ofBody (body : Body) (line : BodyLine) :
    (ofBody body).push line =
      ofBody ⟨body.firstLine, body.otherLines ++ [line]⟩ := by
  have chars : body.chars ++ ['\n'] = Body.joined body.lines := by
    rw [Body.chars_eq, List.append_assoc, Body.following_concat_break]
    exact (Body.joined_cons body.firstLine body.otherLines).symm
  have segments := Body.segmentsFrom_append 0 body.lines [line]
  have nonempty : body.segments.isEmpty = false := rfl
  simp only [push, ofBody, nonempty, Bool.false_eq_true, if_false,
    Buffer.mk.injEq]
  constructor
  · simp [Body.chars_eq, Body.following]
  · rw [Nat.zero_add] at segments
    rw [chars]
    exact segments.symm

/-! ## Parts of a body -/

section Clips

variable {start stop : Nat}

/-- A segment that a stretch covers is cut without a fault. -/
theorem clip_eq_ok
    (ordered : start ≤ stop)
    {segment : Segment}
    {piece : Piece}
    (clipped : segment.clip? start stop = some piece) :
    clip start stop segment = .ok piece := by
  have extent : segment.start ≤ segment.stop := Nat.le_add_right _ _
  unfold Segment.clip? at clipped
  split at clipped
  · obtain rfl := Option.some.inj clipped
    have column : segment.column + max start segment.start - segment.start =
        segment.column + (max start segment.start - segment.start) := by
      omega
    rw [clip, subtract_of_le (by omega), ok_bind, subtract_of_le (by omega),
      ok_bind, subtract_of_le (by omega), ok_bind, column]
    rfl
  · exact absurd clipped (by simp)

/-- The pieces of a stretch are those of the segments that it covers. -/
theorem mapM_clip
    (ordered : start ≤ stop)
    (segments : List Segment) :
    (segments.filter fun segment =>
        decide (segment.start < stop ∧ start < segment.stop)).mapM
      (clip start stop) =
      .ok (segments.filterMap fun segment => segment.clip? start stop) := by
  induction segments with
  | nil => rfl
  | cons segment segments hypothesis =>
      by_cases covered : segment.start < stop ∧ start < segment.stop
      · obtain ⟨piece, clipped⟩ :
            ∃ piece, segment.clip? start stop = some piece :=
          ⟨_, if_pos covered⟩
        rw [List.filter_cons_of_pos (by simpa using covered), List.mapM_cons,
          clip_eq_ok ordered clipped, ok_bind, hypothesis, ok_bind,
          List.filterMap_cons, clipped]
        rfl
      · have notClipped : segment.clip? start stop = none := if_neg covered
        rw [List.filter_cons_of_neg (by simpa using covered), hypothesis,
          List.filterMap_cons, notClipped]

end Clips

/-- A part of a body is found between its byte positions. -/
theorem textAt_ofBody
    {body : Body}
    {before text after : List Char}
    (chars : body.chars = before ++ text ++ after) :
    (ofBody body).textAt (byteLength before)
        (byteLength before + byteLength text) =
      .ok (body.textAt before text) := by
  have whole := partBetween_append before text after
  rw [← chars] at whole
  rw [textAt, Body.textAt]
  simp only [ofBody]
  rw [mapM_clip (Nat.le_add_right _ _), ok_bind, whole]
  cases body.segments.filterMap fun segment =>
      segment.clip? (byteLength before)
        (byteLength before + byteLength text) with
  | nil => rfl
  | cons piece pieces => rfl

end Buffer

end Checked
end DocLint
