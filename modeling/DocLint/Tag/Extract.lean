import DocLint.Comment
import DocLint.Tag.Reader

/-!
# Finding the tags of a comment

A tag starts on a leading comment line whose content, behind its indentation,
starts with an at sign and a directive.  It goes on over the next leading lines
as long as they are not blank, start no tag, and are indented deeper than the
tag's first line.  Comments that trail code take no part.
-/

namespace DocLint

open Text

/-- A content cut at a directive: its indentation, the directive, and what
follows. -/
structure DirectiveCut where
  indentation : List Char
  directive : List Char
  after : List Char
  deriving DecidableEq, Repr

/-- Whether a directive may start with a character, apart from an exclamation
mark before it. -/
def isDirectiveStart (c : Char) : Bool :=
  c.isAlpha || c == '_'

/-- Cut a text behind an at sign at the end of the directive it starts with. -/
def cutDirective? : List Char → Option (List Char × List Char)
  | '!' :: c :: rest =>
    if isDirectiveStart c then
      some ('!' :: c :: rest.takeWhile isDirectiveChar,
        rest.dropWhile isDirectiveChar)
    else none
  | c :: rest =>
    if isDirectiveStart c then
      some (c :: rest.takeWhile isDirectiveChar, rest.dropWhile isDirectiveChar)
    else none
  | [] => none

namespace CommentLine

/-- The indentation of the content. -/
def indentation (comment : CommentLine) : List Char :=
  leadingBlanks comment.content

/-- The content cut at the directive it starts with. -/
def directive? (comment : CommentLine) : Option DirectiveCut :=
  match trimStart comment.content with
  | '@' :: rest =>
    (cutDirective? rest).map fun cut => ⟨comment.indentation, cut.1, cut.2⟩
  | _ => none

/-- What the first line of a tag gives to its body. -/
def tagLine (comment : CommentLine) (cut : DirectiveCut) : BodyLine :=
  { chars := cut.after
    line := comment.line
    column :=
      comment.column +
        byteLength (comment.marker ++ cut.indentation ++ '@' :: cut.directive) }

/-- What a line that continues a tag gives to its body. -/
def continuationLine (comment : CommentLine) : BodyLine :=
  { chars := comment.content
    line := comment.line
    column := comment.column + byteLength comment.marker }

/-- Whether a line continues a tag whose directive is indented by some bytes. -/
def continues (indent : Nat) (comment : CommentLine) : Bool :=
  comment.directive?.isNone && !comment.content.all isBlank &&
    decide (indent < byteLength comment.indentation)

end CommentLine

namespace Tag

/-- The tags of leading lines, each line with its index in the comment. -/
def ofLines : List (CommentLine × Nat) → List Tag
  | [] => []
  | (comment, index) :: rest =>
    match comment.directive? with
    | none => ofLines rest
    | some cut =>
      let further := rest.takeWhile fun line =>
        line.1.continues (byteLength cut.indentation)
      let body : Body :=
        { firstLine := comment.tagLine cut
          otherLines := further.map fun line => line.1.continuationLine }
      ofBody index (String.ofList cut.directive) body :: ofLines rest

/-- The tags of a comment in source order. -/
def extract (comments : List CommentLine) : List Tag :=
  ofLines (comments.zipIdx.filter fun line => line.1.leading)

end Tag
end DocLint
