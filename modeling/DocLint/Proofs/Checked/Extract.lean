import DocLint.Proofs.Checked.Reader
import DocLint.Proofs.TagBlocks

/-!
# Collecting the tags of a comment

The lines of a comment are passed once.  The tag that the last lines belong to
is kept open, with the text that is collected for it, and is read when a line
ends it.  Indentations and columns are differences of byte lengths, and the rest
of a line is cut behind the directive that stands on it.
-/

namespace DocLint
namespace Checked

open Text

/-! ## Contents -/

/-- The text of a comment line behind its marker, and where it starts. -/
def content (comment : CommentLine) : Except Fault (Nat × List Char) := do
  let trimmed := trimStart comment.text.toList
  let offset ← subtract (byteLength comment.text.toList) (byteLength trimmed)
  let (offset, rest) :=
    match trimmed with
    | '#' :: rest => (offset + 1, rest)
    | rest => (offset, rest)
  match rest with
  | ' ' :: rest => return (offset + 1, rest)
  | rest => return (offset, rest)

/-- The content starts behind the marker. -/
theorem content_eq (comment : CommentLine) :
    content comment = .ok (byteLength comment.marker, comment.content) := by
  have hash : '#'.utf8Size = 1 := rfl
  have space : ' '.utf8Size = 1 := rfl
  rw [content, CommentLine.marker, CommentLine.content]
  dsimp only
  rw [subtract_trimStart, ok_bind]
  fun_cases CommentLine.cut comment with
  | case1 rest trimmed =>
      simp only [trimmed, byteLength_append, byteLength_cons, byteLength_nil, hash,
        space]
      rfl
  | case2 rest noSpace trimmed =>
      simp only [trimmed, byteLength_append, byteLength_cons, byteLength_nil, hash]
      rfl
  | case3 noMarker noHash =>
      -- A text without a number sign does not start with a blank.
      simp only
      split
      · rename_i rest trimmed
        exact absurd (isBlank_eq_false_of_trimStart trimmed) (by decide)
      · rfl

/-! ## Tags -/

/-- A tag that further lines may belong to. -/
structure OpenTag where
  lineIndex : Nat
  directive : List Char
  indent : Nat
  buffer : Buffer
  deriving DecidableEq, Repr

/-- Read the open tag, if there is one. -/
def close : Option OpenTag → Except Fault (List Tag)
  | none => return []
  | some tag => do
    let tag ← buildTag tag.lineIndex (String.ofList tag.directive) tag.buffer
    return [tag]

/-- The directive that a text starts with. -/
def directiveOf? : List Char → Option (List Char)
  | '@' :: rest => (cutDirective? rest).map Prod.fst
  | _ => none

/-- The tags of some lines, each with its index in the comment, when a tag may
be open. -/
def extractFrom :
    Option OpenTag → List (CommentLine × Nat) → Except Fault (List Tag)
  | current, [] => close current
  | current, (comment, index) :: rest =>
    if comment.leading then do
      let (offset, content) ← content comment
      let indent ← subtract (byteLength content) (byteLength (trimStart content))
      let stripped ← partFrom content indent
      match directiveOf? stripped with
      | some directive =>
        let closed ← close current
        let bodyStart := indent + 1 + byteLength directive
        let chars ← partFrom content bodyStart
        let buffer := Buffer.empty.push
          ⟨chars, comment.line, comment.column + offset + bodyStart⟩
        let tags ← extractFrom (some ⟨index, directive, indent, buffer⟩) rest
        return closed ++ tags
      | none =>
        match current with
        | none => extractFrom none rest
        | some tag =>
          if !stripped.isEmpty && decide (tag.indent < indent) then
            let buffer := tag.buffer.push
              ⟨content, comment.line, comment.column + offset⟩
            extractFrom (some { tag with buffer }) rest
          else
            let closed ← close (some tag)
            let tags ← extractFrom none rest
            return closed ++ tags
    else
      extractFrom current rest

/-- The tags of a comment. -/
def extract (comments : List CommentLine) : Except Fault (List Tag) :=
  extractFrom none comments.zipIdx

/-! ## Lines and blocks -/

/-- The tag of a block, as long as further lines may belong to it. -/
def OpenTag.ofBlock (block : TagBlock) : OpenTag where
  lineIndex := block.index
  directive := block.cut.directive
  indent := byteLength block.cut.indentation
  buffer := Buffer.ofBody block.body

theorem close_ofBlock (block : TagBlock) :
    close (some (OpenTag.ofBlock block)) = .ok [block.tag] := by
  rw [close, OpenTag.ofBlock, buildTag_eq]
  rfl

section Lines

variable {comment : CommentLine}

theorem directiveOf?_eq (comment : CommentLine) :
    directiveOf? (trimStart comment.content) =
      comment.directive?.map DirectiveCut.directive := by
  unfold CommentLine.directive?
  split
  · rename_i rest sign
    rw [sign, directiveOf?, Option.map_map]
    rfl
  · rename_i noSign
    unfold directiveOf?
    split
    · rename_i rest sign
      exact (noSign rest sign).elim
    · rfl

theorem partFrom_indentation (comment : CommentLine) :
    partFrom comment.content (byteLength comment.indentation) =
      .ok (trimStart comment.content) := by
  have behind := partFrom_blanks [] comment.content
  rwa [List.nil_append, byteLength_nil, Nat.zero_add] at behind

variable (index : Nat)
variable (rest : List (CommentLine × Nat))

/-- A line with a directive opens the tag of a new block. -/
theorem extractFrom_of_directive
    (leading : comment.leading = true)
    {cut : DirectiveCut}
    (directive : comment.directive? = some cut)
    (current : Option OpenTag) :
    extractFrom current ((comment, index) :: rest) = do
      let closed ← close current
      let tags ← extractFrom
        (some (OpenTag.ofBlock ⟨index, comment, cut, []⟩)) rest
      return closed ++ tags := by
  obtain ⟨_, _, _, indentation⟩ :=
    CommentLine.directive?_eq_some_iff.mp directive
  have contentEq := CommentLine.content_of_directive? directive
  have sign : '@'.utf8Size = 1 := rfl
  have behind : partFrom comment.content
      (byteLength comment.indentation + 1 + byteLength cut.directive) =
        .ok cut.after := by
    have whole := partFrom_append (cut.indentation ++ '@' :: cut.directive)
      cut.after
    rw [← contentEq] at whole
    rw [← whole, byteLength_append, byteLength_cons, sign, indentation,
      Nat.add_assoc]
  have column : comment.column + byteLength comment.marker +
      (byteLength comment.indentation + 1 + byteLength cut.directive) =
        (comment.tagLine cut).column := by
    rw [CommentLine.tagLine, indentation]
    simp only [byteLength_append, byteLength_cons, sign]
    omega
  have opened : OpenTag.mk index cut.directive (byteLength comment.indentation)
      (Buffer.empty.push ⟨cut.after, comment.line, (comment.tagLine cut).column⟩) =
        OpenTag.ofBlock ⟨index, comment, cut, []⟩ := by
    rw [Buffer.push_empty, OpenTag.ofBlock, indentation]
    rfl
  rw [extractFrom, if_pos leading, content_eq, ok_bind]
  dsimp only
  rw [subtract_trimStart, ok_bind, ← CommentLine.indentation,
    partFrom_indentation, ok_bind, directiveOf?_eq, directive]
  simp only [Option.map_some, behind, ok_bind, column, opened]

/-- A line without a directive is added to the open tag, or ends it. -/
theorem extractFrom_of_none
    (leading : comment.leading = true)
    (noDirective : comment.directive? = none)
    (block : TagBlock) :
    extractFrom (some (OpenTag.ofBlock block)) ((comment, index) :: rest) =
      if comment.continues (byteLength block.cut.indentation) then
        extractFrom
          (some (OpenTag.ofBlock
            { block with further := block.further ++ [comment] })) rest
      else do
        let tags ← extractFrom none rest
        return block.tag :: tags := by
  have added : OpenTag.mk block.index block.cut.directive
      (byteLength block.cut.indentation)
      ((Buffer.ofBody block.body).push comment.continuationLine) =
        OpenTag.ofBlock
          { block with further := block.further ++ [comment] } := by
    rw [Buffer.push_ofBody]
    simp [OpenTag.ofBlock, TagBlock.body]
  have continues : comment.continues (byteLength block.cut.indentation) =
      (!(trimStart comment.content).isEmpty &&
        decide ((OpenTag.ofBlock block).indent <
          byteLength comment.indentation)) := by
    have blank : comment.content.all isBlank =
        (trimStart comment.content).isEmpty := by
      rw [trimStart, Bool.eq_iff_iff]
      simp [List.isEmpty_iff, List.dropWhile_eq_nil_iff]
    simp only [CommentLine.continues, noDirective, blank, Option.isNone_none,
      Bool.true_and]
    rfl
  rw [extractFrom, if_pos leading, content_eq, ok_bind]
  dsimp only
  rw [subtract_trimStart, ok_bind, ← CommentLine.indentation,
    partFrom_indentation, ok_bind, directiveOf?_eq, noDirective, continues]
  dsimp only [Option.map_none]
  rw [close_ofBlock, ← added]
  rfl

/-- A line without a directive opens no tag. -/
theorem extractFrom_none_of_none
    (noDirective : comment.directive? = none) :
    extractFrom none ((comment, index) :: rest) = extractFrom none rest := by
  rw [extractFrom]
  split
  · rw [content_eq, ok_bind]
    dsimp only
    rw [subtract_trimStart, ok_bind, ← CommentLine.indentation,
      partFrom_indentation, ok_bind, directiveOf?_eq, noDirective]
    rfl
  · rfl

end Lines

/-- The lines that do not trail code. -/
def leadingLines
    (lines : List (CommentLine × Nat)) : List (CommentLine × Nat) :=
  lines.filter fun line => line.1.leading

/-- A block with the lines that continue it. -/
def extended (block : TagBlock) (lines : List (CommentLine × Nat)) : TagBlock :=
  let continuing := lines.takeWhile fun line =>
    line.1.continues (byteLength block.cut.indentation)
  { block with further := block.further ++ continuing.map Prod.fst }

section Extended

variable {comment : CommentLine}
variable {block : TagBlock}
variable (index : Nat)
variable (rest : List (CommentLine × Nat))

theorem ofLines_of_directive
    {cut : DirectiveCut}
    (directive : comment.directive? = some cut) :
    Tag.ofLines ((comment, index) :: rest) =
      (extended ⟨index, comment, cut, []⟩ rest).tag :: Tag.ofLines rest := by
  rw [← TagBlock.map_tag_ofLines, TagBlock.ofLines_cons_of_some directive,
    List.map_cons, TagBlock.map_tag_ofLines]
  rfl

theorem ofLines_of_none
    (noDirective : comment.directive? = none) :
    Tag.ofLines ((comment, index) :: rest) = Tag.ofLines rest := by
  simp only [Tag.ofLines, noDirective]

theorem extended_of_continues
    (continues :
      comment.continues (byteLength block.cut.indentation) = true) :
    extended block ((comment, index) :: rest) =
      extended { block with further := block.further ++ [comment] } rest := by
  simp [extended, continues]

theorem extended_of_ends
    (ends : ¬ comment.continues (byteLength block.cut.indentation) = true) :
    extended block ((comment, index) :: rest) = block := by
  simp [extended, ends]

end Extended

/-- The tags that are collected are those of the leading lines, and the open tag
with the lines that continue it. -/
theorem extractFrom_eq (lines : List (CommentLine × Nat)) :
    extractFrom none lines = .ok (Tag.ofLines (leadingLines lines)) ∧
      ∀ block, extractFrom (some (OpenTag.ofBlock block)) lines =
        .ok ((extended block (leadingLines lines)).tag ::
          Tag.ofLines (leadingLines lines)) := by
  induction lines with
  | nil =>
      refine ⟨rfl, ?_⟩
      intro block
      rw [extractFrom, close_ofBlock]
      simp [Tag.ofLines, extended, leadingLines]
  | cons line rest hypothesis =>
      obtain ⟨comment, index⟩ := line
      obtain ⟨closed, opened⟩ := hypothesis
      by_cases leading : comment.leading = true
      · have kept : leadingLines ((comment, index) :: rest) =
            (comment, index) :: leadingLines rest :=
          List.filter_cons_of_pos leading
        rw [kept]
        cases directive : comment.directive? with
        | some cut =>
            rw [ofLines_of_directive index _ directive]
            constructor
            · rw [extractFrom_of_directive index rest leading directive, opened]
              rfl
            · intro block
              have ends : ¬ comment.continues
                  (byteLength block.cut.indentation) = true := by
                simp [CommentLine.continues, directive]
              rw [extractFrom_of_directive index rest leading directive, opened,
                close_ofBlock, extended_of_ends index _ ends]
              rfl
        | none =>
            rw [ofLines_of_none index _ directive]
            constructor
            · rw [extractFrom_none_of_none index rest directive, closed]
            · intro block
              rw [extractFrom_of_none index rest leading directive]
              split
              · rename_i continues
                rw [opened, extended_of_continues index _ continues]
              · rename_i ends
                rw [closed, extended_of_ends index _ ends]
                rfl
      · have skipped : leadingLines ((comment, index) :: rest) =
            leadingLines rest :=
          List.filter_cons_of_neg leading
        rw [skipped, extractFrom, if_neg leading]
        refine ⟨closed, ?_⟩
        intro block
        rw [extractFrom, if_neg leading, opened]

/-- The tags of a comment are found without a fault. -/
theorem extract_eq (comments : List CommentLine) :
    extract comments = .ok (Tag.extract comments) :=
  (extractFrom_eq comments.zipIdx).1

end Checked
end DocLint
