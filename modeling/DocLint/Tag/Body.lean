import DocLint.Tag.Basic

/-!
# The body of a tag

The body of a tag is the rest of its first line and the lines that continue it.
The text of the body has line breaks between the lines, which are in no source
line.  Any stretch of the body's text can be traced back to the source lines it
covers.
-/

namespace DocLint

open Text

/-- What one source line gives to the body of a tag. -/
structure BodyLine where
  chars : List Char
  line : Nat
  column : Nat
  deriving DecidableEq, Repr

/-- The body of a tag. -/
structure Body where
  firstLine : BodyLine
  otherLines : List BodyLine
  deriving DecidableEq, Repr

/-- A body line with the byte position where it starts in the text of the
body. -/
structure Segment where
  start : Nat
  length : Nat
  line : Nat
  column : Nat
  deriving DecidableEq, Repr

namespace Segment

/-- Where the segment stops in the text of the body. -/
def stop (segment : Segment) : Nat :=
  segment.start + segment.length

/-- The piece of the stretch from `start` to `stop` that lies in the segment, if
there is one. -/
def clip? (segment : Segment) (start stop : Nat) : Option Piece :=
  if segment.start < stop ∧ start < segment.stop then
    let pieceStart := max start segment.start
    some
      { offset := pieceStart - start
        length := min stop segment.stop - pieceStart
        line := segment.line
        column := segment.column + (pieceStart - segment.start) }
  else none

/-- The empty piece nearest to a byte position at or behind the start of the
segment. -/
def pointAt (segment : Segment) (offset : Nat) : Piece :=
  { offset := 0
    length := 0
    line := segment.line
    column := segment.column + min (offset - segment.start) segment.length }

end Segment

namespace Body

/-- The segment of a line that starts at a byte position. -/
def segmentOf (start : Nat) (line : BodyLine) : Segment :=
  ⟨start, byteLength line.chars, line.line, line.column⟩

/-- The segments of lines that follow each other, the first at a byte position.
One byte stands between two of them. -/
def segmentsFrom (start : Nat) : List BodyLine → List Segment
  | [] => []
  | line :: rest =>
    segmentOf start line ::
      segmentsFrom (start + byteLength line.chars + 1) rest

/-- The segment of the first line. -/
def firstSegment (body : Body) : Segment :=
  segmentOf 0 body.firstLine

/-- The segments of all lines. -/
def segments (body : Body) : List Segment :=
  segmentsFrom 0 (body.firstLine :: body.otherLines)

/-- The text of the body. -/
def chars (body : Body) : List Char :=
  body.firstLine.chars ++ body.otherLines.flatMap fun line => '\n' :: line.chars

/-- The last segment that starts at or before a byte position. -/
def segmentAt (body : Body) (offset : Nat) : Segment :=
  (body.segments.reverse.find? fun segment =>
    decide (segment.start ≤ offset)).getD body.firstSegment

/-- The text that stands behind `before` in the text of the body, with its
pieces.  A text that lies in no line has one empty piece. -/
def textAt (body : Body) (before text : List Char) : TagText :=
  let start := byteLength before
  let stop := start + byteLength text
  match body.segments.filterMap fun segment => segment.clip? start stop with
  | [] => ⟨String.ofList text, (body.segmentAt start).pointAt start, []⟩
  | piece :: pieces => ⟨String.ofList text, piece, pieces⟩

end Body
end DocLint
