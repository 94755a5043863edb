import DocLint.Proofs.TagReading

/-!
# Generated lines are read as they are written

A generated tag on a line of its own is read back: it is the one tag of that
comment, with the name and the types that it was written with.  Both texts are
found at the columns where they are written, so that what is said about them
points at them, whatever else the types look like.
-/

namespace DocLint

open Text

/-! ## Bodies of one line -/

theorem Body.clip?_segmentOf_zero
    (line : BodyLine)
    (start stop : Nat) :
    (segmentOf 0 line).clip? start stop =
      if 0 < stop ∧ start < byteLength line.chars then
        some ⟨0, min stop (byteLength line.chars) - start, line.line,
          line.column + start⟩
      else none := by
  simp [Segment.clip?, segmentOf, Segment.stop]

/-- A part of a line alone is in one piece, which starts where the part does. -/
theorem Body.textAt_of_line
    {line : BodyLine}
    {before text after : List Char}
    (chars : line.chars = before ++ (text ++ after)) :
    (Body.mk line []).textAt before text =
      ⟨String.ofList text,
        ⟨0, byteLength text, line.line, line.column + byteLength before⟩,
        []⟩ := by
  have length : byteLength line.chars =
      byteLength before + (byteLength text + byteLength after) := by
    rw [chars, byteLength_append, byteLength_append]
  have segments : (Body.mk line []).segments = [segmentOf 0 line] := rfl
  have segmentAt : (Body.mk line []).segmentAt (byteLength before) =
      segmentOf 0 line := by
    simp [Body.segmentAt, segments, segmentOf]
  have pointAt : (segmentOf 0 line).pointAt (byteLength before) =
      ⟨0, 0, line.line, line.column + byteLength before⟩ := by
    simp only [Segment.pointAt, segmentOf]
    congr 1
    omega
  unfold textAt
  dsimp only
  rw [segments, segmentAt, pointAt]
  simp only [List.filterMap_cons, List.filterMap_nil]
  rw [clip?_segmentOf_zero]
  by_cases covers : 0 < byteLength before + byteLength text ∧
      byteLength before < byteLength line.chars
  · have within : min (byteLength before + byteLength text)
        (byteLength line.chars) - byteLength before = byteLength text := by
      omega
    rw [if_pos covers, within]
  · -- Nothing stands between the ends of the line, so the text is empty.
    have empty : byteLength text = 0 := by
      omega
    rw [if_neg covers, empty]

/-- A text is what a comment line has between two of its parts, and its place is
where it stands there. -/
structure TagText.StandsBetween
    (text : TagText)
    (comment : CommentLine)
    (before after : List Char) : Prop where
  whole : comment.text.toList = before ++ (text.chars ++ after)
  oneLine : text.isMultiline = false
  place : text.place = ⟨comment.line, comment.column + byteLength before,
    comment.column + byteLength before + byteLength text.chars⟩
  located : ∀ start stop, start ≤ stop → stop ≤ byteLength text.chars →
    text.locate? start stop =
      some ⟨comment.line, comment.column + byteLength before + start,
        comment.column + byteLength before + stop⟩

/-- What a part of a body's only line gives stands where that part does. -/
theorem Body.standsBetween_textAt
    {line : BodyLine}
    {comment : CommentLine}
    {front before text after : List Char}
    (whole : comment.text.toList = front ++ line.chars)
    (lineEq : line.line = comment.line)
    (column : line.column = comment.column + byteLength front)
    (chars : line.chars = before ++ (text ++ after)) :
    ((Body.mk line []).textAt before text).StandsBetween comment
      (front ++ before) after := by
  have position : line.column + byteLength before =
      comment.column + byteLength (front ++ before) := by
    rw [column, byteLength_append, Nat.add_assoc]
  have pieceEq := textAt_of_line chars
  rw [lineEq, position] at pieceEq
  refine ⟨?_, ?_, ?_, ?_⟩
  · rw [chars_textAt, whole, chars, List.append_assoc]
  · rw [pieceEq]
    rfl
  · rw [chars_textAt, pieceEq]
    rfl
  · intro start stop inOrder inText
    rw [chars_textAt] at inText
    have pieceAt : TagText.pieceAt? ⟨String.ofList text,
        ⟨0, byteLength text, comment.line,
          comment.column + byteLength (front ++ before)⟩, []⟩ start =
        some ⟨0, byteLength text, comment.line,
          comment.column + byteLength (front ++ before)⟩ := by
      simp [TagText.pieceAt?, TagText.pieces]
    rw [pieceEq, TagText.locate?, pieceAt]
    dsimp only
    rw [if_neg (by omega), Nat.sub_zero, Nat.sub_zero]

/-! ## Generated lines -/

namespace Prototype

/-- The comment line of a generated tag. -/
def comment
    (prototype : Prototype)
    (name types : String)
    (line column : Nat) : CommentLine :=
  ⟨line, column, "# " ++ prototype.format name types, true⟩

/-- What stands behind the name on the line of a generated tag. -/
def nameRest (prototype : Prototype) (types : List Char) : List Char :=
  match prototype with
  | .typeFirst => []
  | .nameFirst => [' ', '['] ++ types ++ [']']

/-- What stands behind the types on the line of a generated tag. -/
def typesRest (prototype : Prototype) (name : List Char) : List Char :=
  match prototype with
  | .typeFirst => [']', ' '] ++ name
  | .nameFirst => [']']

variable (prototype : Prototype)

theorem body_eq_around_name (name types : List Char) :
    prototype.body name types =
      prototype.nameLead types ++ (name ++ prototype.nameRest types) := by
  cases prototype with
  | typeFirst => simp [body, nameLead, nameRest]
  | nameFirst => simp [body, nameLead, nameRest]

theorem body_eq_around_types (name types : List Char) :
    prototype.body name types =
      prototype.typesLead name ++ (types ++ prototype.typesRest name) := by
  cases prototype with
  | typeFirst => simp [body, typesLead, typesRest]
  | nameFirst => simp [body, typesLead, typesRest]

variable (name types : String)
variable (line column : Nat)

theorem toList_text_comment :
    (prototype.comment name types line column).text.toList =
      "# @param".toList ++ prototype.body name.toList types.toList := by
  simp [comment, toList_format]

theorem isGenerated_comment
    (isWord : IsWord name.toList)
    (balanced : TypeListCut.IsBalanced types.toList) :
    (prototype.comment name types line column).IsGenerated prototype name
      types :=
  ⟨isWord, balanced, [], by simp, by simp [comment]⟩

theorem marker_comment :
    (prototype.comment name types line column).marker = ['#', ' '] := by
  have text : (prototype.comment name types line column).text.toList =
      ([] ++ ['#', ' ']) ++ (prototype.format name types).toList := by
    simp [comment]
  rw [CommentLine.marker,
    CommentLine.cut_of_isMarked (.spaced (List.forall_mem_nil _)) text,
    List.nil_append]

theorem extract_comment
    (isWord : IsWord name.toList)
    (balanced : TypeListCut.IsBalanced types.toList) :
    Tag.extract [prototype.comment name types line column] =
      [Tag.ofBody 0 "param" (Tag.generatedBody
        (prototype.comment name types line column) prototype name types)] :=
  Tag.ofLines_of_isGenerated
    (prototype.isGenerated_comment name types line column isWord balanced) 0

/-- A part of the body of a generated line stands on the line behind the
directive. -/
theorem standsBetween_textAt
    {before text after : List Char}
    (chars : prototype.body name.toList types.toList =
      before ++ (text ++ after)) :
    ((Tag.generatedBody (prototype.comment name types line column) prototype
      name types).textAt before text).StandsBetween
        (prototype.comment name types line column)
        ("# @param".toList ++ before) after := by
  apply Body.standsBetween_textAt
  · exact prototype.toList_text_comment name types line column
  · rfl
  · rw [CommentLine.tagLine, marker_comment]
    rfl
  · exact chars

end Prototype

/-- A tag is what a generated line is written for: it gives the types to the
name, and each of both stands on the line where it is written. -/
structure Tag.IsWritten
    (tag : Tag)
    (prototype : Prototype)
    (name types : String)
    (comment : CommentLine) : Prop where
  documents : tag.Documents name types
  nameStands : ∀ read, tag.name = some read →
    read.StandsBetween comment
      ("# @param".toList ++ prototype.nameLead types.toList)
      (prototype.nameRest types.toList)
  typesStand : ∀ read, tag.types = some read →
    read.StandsBetween comment
      ("# @param".toList ++ prototype.typesLead name.toList)
      (prototype.typesRest name.toList)

/-- A line that is generated for a word and types with nested brackets is read
as one tag, which is what the line is written for. -/
theorem Tag.extract_generated_line
    {name types : String}
    (isWord : IsWord name.toList)
    (nests : NestsBrackets types.toList)
    (prototype : Prototype)
    (line column : Nat) :
    ∃ tag, extract [prototype.comment name types line column] = [tag] ∧
      tag.IsWritten prototype name types
        (prototype.comment name types line column) := by
  have balanced := TypeListCut.isBalanced_iff.mpr nests
  have chars := chars_generatedBody
    (prototype.comment name types line column) prototype name types
  refine ⟨_, prototype.extract_comment name types line column isWord balanced,
    documents_ofBody isWord balanced chars 0, ?_, ?_⟩
  · rw [ofBody_generated isWord balanced chars]
    rintro read ⟨⟩
    exact prototype.standsBetween_textAt name types line column
      (prototype.body_eq_around_name name.toList types.toList)
  · rw [ofBody_generated isWord balanced chars]
    rintro read ⟨⟩
    exact prototype.standsBetween_textAt name types line column
      (prototype.body_eq_around_types name.toList types.toList)

/-- Types that hold square brackets and end like a reference, behind a name that
is longer in bytes than in characters. -/
theorem Tag.extract_generated_line_like_reference :
    (∃ tag, extract [⟨7, 2, "# @param clé [Hash[é] (see #x)]", true⟩] = [tag] ∧
      tag.IsWritten .nameFirst "clé" "Hash[é] (see #x)"
        ⟨7, 2, "# @param clé [Hash[é] (see #x)]", true⟩) ∧
    (extract [⟨7, 2, "# @param clé [Hash[é] (see #x)]", true⟩]).map
        (fun tag => (tag.name.map TagText.place, tag.types.map TagText.place)) =
      [(some ⟨7, 11, 15⟩, some ⟨7, 17, 34⟩)] := by
  have written : Prototype.nameFirst.comment "clé" "Hash[é] (see #x)" 7 2 =
      ⟨7, 2, "# @param clé [Hash[é] (see #x)]", true⟩ := by
    decide +kernel
  have isWord : IsWord "clé".toList := by
    decide +kernel
  have nests : NestsBrackets "Hash[é] (see #x)".toList :=
    TypeListCut.isBalanced_iff.mp (by decide +kernel)
  have read := Tag.extract_generated_line isWord nests .nameFirst 7 2
  rw [written] at read
  exact ⟨read, by decide +kernel⟩

end DocLint
