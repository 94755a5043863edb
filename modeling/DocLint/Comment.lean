import DocLint.Text.Bytes
import DocLint.Text.Words

/-!
# Comment lines

A documentation comment is a list of lines.  A line is told apart by where it
stands in the source: its line number, counted from one, and the byte column
where its text starts, counted from zero.
-/

namespace DocLint

open Text

/-- One line of a comment. -/
structure CommentLine where
  line : Nat
  column : Nat
  /-- The comment with its marker. -/
  text : String
  /-- Whether the comment has the line for itself; otherwise it trails some
  code. -/
  leading : Bool
  deriving DecidableEq, Repr

namespace CommentLine

/-- The text cut behind its marker: blanks, a number sign and one space, as far
as they are there. -/
def cut (comment : CommentLine) : List Char × List Char :=
  match trimStart comment.text.toList with
  | '#' :: ' ' :: rest =>
    (leadingBlanks comment.text.toList ++ ['#', ' '], rest)
  | '#' :: rest => (leadingBlanks comment.text.toList ++ ['#'], rest)
  | rest => (leadingBlanks comment.text.toList, rest)

/-- What stands in front of the content. -/
def marker (comment : CommentLine) : List Char :=
  comment.cut.1

/-- The text behind the marker. -/
def content (comment : CommentLine) : List Char :=
  comment.cut.2

/-- The column just behind the comment. -/
def endColumn (comment : CommentLine) : Nat :=
  comment.column + byteLength comment.text.toList

/-- Marker and content together are the text. -/
theorem marker_append_content (comment : CommentLine) :
    comment.marker ++ comment.content = comment.text.toList := by
  have whole := leadingBlanks_append_trimStart comment.text.toList
  unfold marker content cut
  split <;> simp_all

end CommentLine

/-- The last line that does not trail code. -/
def lastLeading? (comments : List CommentLine) : Option CommentLine :=
  comments.reverse.find? CommentLine.leading

/-- Lines that follow each other from a line number on, all in one column. -/
def CommentLine.consecutive
    (firstLine column : Nat) :
    List String → List CommentLine
  | [] => []
  | text :: rest =>
    ⟨firstLine, column, text, true⟩ :: consecutive (firstLine + 1) column rest

end DocLint
