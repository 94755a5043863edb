import DocLint.Proofs.CorrectionSpan

/-!
# Where tags and their texts stand

A tag starts on a leading line of its comment, the one that its index counts.
Every text that is read from a tag is a part of the text of its body, and every
piece of such a text lies on one of the comment lines of the tag.
-/

namespace DocLint

open Text

/-! ## The line of a tag -/

namespace Tag

theorem exists_of_mem_ofLines
    {lines : List (CommentLine × Nat)}
    {tag : Tag}
    (member : tag ∈ ofLines lines) :
    ∃ line ∈ lines, line.2 = tag.lineIndex := by
  induction lines with
  | nil => exact absurd member (by simp [ofLines])
  | cons line rest hypothesis =>
      obtain ⟨comment, index⟩ := line
      unfold ofLines at member
      split at member
      · obtain ⟨line, found, indexEq⟩ := hypothesis member
        exact ⟨line, List.mem_cons_of_mem _ found, indexEq⟩
      · rcases List.mem_cons.mp member with rfl | member
        · exact ⟨_, List.mem_cons_self, (lineIndex_ofBody _ _ _).symm⟩
        · obtain ⟨line, found, indexEq⟩ := hypothesis member
          exact ⟨line, List.mem_cons_of_mem _ found, indexEq⟩

/-- The index of a tag is that of a leading line. -/
theorem exists_comment
    {comments : List CommentLine}
    {tag : Tag}
    (member : tag ∈ extract comments) :
    ∃ comment ∈ comments, comments[tag.lineIndex]? = some comment ∧
      comment.leading = true := by
  obtain ⟨⟨comment, index⟩, found, rfl⟩ := exists_of_mem_ofLines member
  obtain ⟨inComments, leading⟩ := List.mem_filter.mp found
  have indexed := List.mk_mem_zipIdx_iff_getElem?.mp inComments
  exact ⟨comment, List.mem_of_getElem? indexed, indexed, leading⟩

end Tag

/-! ## Parts of a text -/

/-- A cutting names a part of a text. -/
def Cutting.IsOf (cutting : Cutting) (text : List Char) : Prop :=
  ∃ after, text = cutting.before ++ cutting.text ++ after

namespace Cutting

theorem isOf_of_firstWord?
    {before rest : List Char}
    {word : Cutting}
    (found : firstWord? before rest = some word) :
    word.IsOf (before ++ rest) := by
  unfold firstWord? at found
  split at found
  · exact absurd found (by simp)
  · obtain rfl := Option.some.inj found
    refine ⟨afterWord (trimStart rest), ?_⟩
    rw [List.append_assoc, leadingWord_append_afterWord, List.append_assoc,
      leadingBlanks_append_trimStart]

/-- A name without its last character is still a part of the text. -/
theorem IsOf.trimName
    {cutting : Cutting}
    {text : List Char}
    (isOf : cutting.IsOf text) :
    cutting.trimName.IsOf text := by
  obtain ⟨after, rfl⟩ := isOf
  have shortened {c d : Char} {rest : List Char}
      (reversed : cutting.text.reverse = c :: d :: rest) :
      (Cutting.mk cutting.before (d :: rest).reverse).IsOf
        (cutting.before ++ cutting.text ++ after) := by
    refine ⟨c :: after, ?_⟩
    have whole := congrArg List.reverse reversed
    rw [List.reverse_reverse, List.reverse_cons] at whole
    rw [whole]
    simp
  unfold Cutting.trimName
  split
  · rename_i reversed
    exact shortened reversed
  · rename_i reversed
    exact shortened reversed
  · exact ⟨after, rfl⟩

theorem exists_of_untilLastClosing?
    {rest text : List Char}
    (found : untilLastClosing? rest = some text) :
    ∃ after, rest = text ++ after := by
  unfold untilLastClosing? at found
  dsimp only at found
  split at found
  · exact absurd found (by simp)
  · obtain rfl := Option.some.inj found
    -- The text is a start of its line, and the line is a start of the rest.
    have ofLine := (List.reverse_prefix.mpr (List.dropWhile_suffix
      (l := (rest.takeWhile (· != '\n')).reverse) (· != ']')))
    rw [List.reverse_reverse] at ofLine
    obtain ⟨after, whole⟩ := ofLine.trans (List.takeWhile_prefix (· != '\n'))
    exact ⟨after, whole.symm⟩

theorem isOf_of_firstBracketed?
    {before rest : List Char}
    {cutting : Cutting}
    (found : firstBracketed? before rest = some cutting) :
    cutting.IsOf (before ++ rest) := by
  induction rest generalizing before with
  | nil => exact absurd found (by simp [firstBracketed?])
  | cons c rest hypothesis =>
      unfold firstBracketed? at found
      dsimp only at found
      split at found
      · rename_i text bracketed
        obtain rfl := Option.some.inj found
        split at bracketed
        · obtain ⟨after, rfl⟩ := exists_of_untilLastClosing? bracketed
          exact ⟨after, by simp⟩
        · exact absurd bracketed (by simp)
      · obtain ⟨after, whole⟩ := hypothesis found
        exact ⟨after, by rw [← whole]; simp⟩

end Cutting

/-! ## The texts of a tag -/

/-- A text is a part of a body's text, with its pieces. -/
def TagText.IsPartOf (text : TagText) (body : Body) : Prop :=
  ∃ cutting : Cutting, cutting.IsOf body.chars ∧ body.cutting cutting = text

/-- What is read from a tag. -/
def Tag.fields (tag : Tag) : TagFields where
  name := tag.name
  key := tag.key
  types := tag.types
  misplacedTypes := tag.misplacedTypes

/-- All texts of some fields are parts of one body. -/
structure TagFields.AreOf (fields : TagFields) (body : Body) : Prop where
  name : ∀ text, fields.name = some text → text.IsPartOf body
  key : ∀ text, fields.key = some text → text.IsPartOf body
  types : ∀ text, fields.types = some text → text.IsPartOf body
  misplacedTypes : ∀ text, fields.misplacedTypes = some text →
    text.IsPartOf body

namespace TagFields

variable {body : Body}

theorem areOf_empty (body : Body) : AreOf {} body := by
  constructor <;> exact fun text given => absurd given (by simp)

/-- A trimmed word is a part of the body that it is cut from. -/
theorem isPartOf_of_trimName
    {found : Option Cutting}
    (areOf : ∀ cutting, found = some cutting → cutting.IsOf body.chars)
    {text : TagText}
    (given : (found.map fun cutting => body.cutting cutting.trimName) =
      some text) :
    text.IsPartOf body := by
  obtain ⟨cutting, isFound, rfl⟩ := Option.map_eq_some_iff.mp given
  exact ⟨cutting.trimName, (areOf cutting isFound).trimName, rfl⟩

theorem isPartOf_of_firstBracketed?
    {before rest : List Char}
    (chars : body.chars = before ++ rest)
    {text : TagText}
    (given : (Cutting.firstBracketed? before rest).map body.cutting =
      some text) :
    text.IsPartOf body := by
  obtain ⟨cutting, found, rfl⟩ := Option.map_eq_some_iff.mp given
  exact ⟨cutting, chars ▸ Cutting.isOf_of_firstBracketed? found, rfl⟩

theorem areOf_firstBracketed? (body : Body) :
    AreOf { misplacedTypes :=
      (Cutting.firstBracketed? [] body.chars).map body.cutting } body := by
  refine ⟨?_, ?_, ?_, ?_⟩
  · exact fun text given => absurd given (by simp)
  · exact fun text given => absurd given (by simp)
  · exact fun text given => absurd given (by simp)
  · exact fun text given =>
      isPartOf_of_firstBracketed? (List.nil_append _).symm given

theorem areOf_typesAndName
    {before rest : List Char}
    (chars : body.chars = before ++ rest) :
    (typesAndName body before rest).AreOf body := by
  unfold typesAndName
  dsimp only
  split
  · rename_i cut found
    have whole := TypeListCut.chars_of_ofChars? found
    refine ⟨?_, ?_, ?_, ?_⟩
    · intro text given
      refine isPartOf_of_trimName ?_ given
      intro cutting named
      split at named
      · exact absurd named (by simp)
      · rename_i after _ afterEq
        have isOf := Cutting.isOf_of_firstWord? named
        rw [chars, whole, afterEq]
        simpa [TypeListCut.closing] using isOf
      · obtain rfl := Option.some.inj named
        refine ⟨cut.gap ++ ['['] ++ cut.inside ++
          TypeListCut.closing cut.after, ?_⟩
        rw [chars, whole, TypeListCut.lead]
        simp
    · exact fun text given => absurd given (by simp)
    · intro text given
      obtain rfl := Option.some.inj given
      refine ⟨⟨before ++ cut.lead, cut.inside⟩,
        ⟨TypeListCut.closing cut.after, ?_⟩, rfl⟩
      rw [chars, whole]
      simp
    · exact fun text given => absurd given (by simp)
  · refine ⟨?_, ?_, ?_, ?_⟩
    · intro text given
      refine isPartOf_of_trimName ?_ given
      intro cutting found
      exact chars ▸ Cutting.isOf_of_firstWord? found
    · exact fun text given => absurd given (by simp)
    · exact fun text given => absurd given (by simp)
    · exact fun text given => isPartOf_of_firstBracketed? chars given

theorem areOf_option (body : Body) : (option body).AreOf body := by
  unfold option
  split
  · exact areOf_empty body
  · rename_i word found
    split
    · exact areOf_firstBracketed? body
    · have wordIsOf := Cutting.isOf_of_firstWord? found
      rw [List.nil_append] at wordIsOf
      have chars : body.chars =
          (word.before ++ word.text) ++ afterWord (trimStart body.chars) := by
        unfold Cutting.firstWord? at found
        split at found
        · exact absurd found (by simp)
        · obtain rfl := Option.some.inj found
          rw [List.append_assoc, leadingWord_append_afterWord, List.nil_append,
            leadingBlanks_append_trimStart]
      have behind := areOf_typesAndName chars
      refine ⟨?_, behind.name, behind.types, behind.misplacedTypes⟩
      intro text given
      obtain rfl := Option.some.inj given
      exact ⟨word.trimName, wordIsOf.trimName, rfl⟩

theorem areOf_typesOnly (body : Body) : (typesOnly body).AreOf body := by
  unfold typesOnly
  split
  · rename_i blanks gap inside after found
    have whole := TypeListCut.chars_of_ofChars? found
    refine ⟨?_, ?_, ?_, ?_⟩
    · exact fun text given => absurd given (by simp)
    · exact fun text given => absurd given (by simp)
    · intro text given
      obtain rfl := Option.some.inj given
      refine ⟨⟨blanks ++ gap ++ ['['], inside⟩,
        ⟨TypeListCut.closing after, ?_⟩, rfl⟩
      rw [whole]
      simp [TypeListCut.lead]
    · exact fun text given => absurd given (by simp)
  · exact areOf_firstBracketed? body

end TagFields

/-- The name in front of a reference is the first word of the text. -/
theorem Cutting.eq_of_reference?
    {text : List Char}
    {cutting : Cutting}
    (found : reference? text = some (some cutting)) :
    cutting = ⟨leadingBlanks text, leadingWord (trimStart text)⟩ ∧
      cutting.text ≠ [] := by
  unfold reference? at found
  dsimp only at found
  split at found
  · rename_i isReference
    obtain rfl := Option.some.inj (Option.some.inj found)
    simp only [Bool.and_eq_true, Bool.not_eq_true', List.isEmpty_eq_false_iff]
      at isReference
    exact ⟨rfl, isReference.1.1⟩
  · split at found
    · exact absurd found (by simp)
    · exact absurd found (by simp)

theorem Cutting.isOf_of_reference?
    {text : List Char}
    {cutting : Cutting}
    (found : reference? text = some (some cutting)) :
    cutting.IsOf text := by
  obtain ⟨rfl, _⟩ := eq_of_reference? found
  refine ⟨afterWord (trimStart text), ?_⟩
  rw [List.append_assoc, leadingWord_append_afterWord,
    leadingBlanks_append_trimStart]

/-- All that is read from a tag is a part of its body. -/
theorem Tag.areOf_ofBody
    (index : Nat)
    (directive : String)
    (body : Body) :
    (ofBody index directive body).fields.AreOf body := by
  unfold ofBody
  split
  · rename_i name found
    refine ⟨?_, ?_, ?_, ?_⟩
    · intro text given
      have trimmed : (name.map fun cutting =>
          body.cutting cutting.trimName) = some text := given
      refine TagFields.isPartOf_of_trimName ?_ trimmed
      rintro cutting rfl
      exact Cutting.isOf_of_reference? found
    · exact fun text given => absurd given (by simp [fields])
    · exact fun text given => absurd given (by simp [fields])
    · exact fun text given => absurd given (by simp [fields])
  · dsimp only [fields]
    generalize TagKind.ofDirective directive = kind
    cases kind with
    | param => exact TagFields.areOf_typesAndName rfl
    | yieldParam => exact TagFields.areOf_typesAndName rfl
    | option => exact TagFields.areOf_option body
    | returns => exact TagFields.areOf_typesOnly body
    | raise => exact TagFields.areOf_typesOnly body
    | yieldReturn => exact TagFields.areOf_typesOnly body
    | reference => exact TagFields.areOf_empty body
    | overload => exact TagFields.areOf_empty body
    | other => exact TagFields.areOf_empty body

/-! ## The pieces of a text -/

/-- A piece lies on a line of a body. -/
structure Piece.LiesOn (piece : Piece) (line : BodyLine) : Prop where
  line_eq : piece.line = line.line
  start : line.column ≤ piece.column
  stop : piece.column + piece.length ≤ line.column + byteLength line.chars

namespace Body

/-- A segment is that of one of the lines, behind the text of the lines
before. -/
theorem exists_split_of_mem_segmentsFrom
    {start : Nat}
    {lines : List BodyLine}
    {segment : Segment}
    (member : segment ∈ segmentsFrom start lines) :
    ∃ earlier line later, lines = earlier ++ line :: later ∧
      segment = segmentOf (start + byteLength (joined earlier)) line := by
  induction lines generalizing start with
  | nil => exact absurd member (by simp [segmentsFrom])
  | cons line rest hypothesis =>
      rw [segmentsFrom, List.mem_cons] at member
      rcases member with rfl | member
      · exact ⟨[], line, rest, rfl, rfl⟩
      · obtain ⟨earlier, found, later, rfl, rfl⟩ := hypothesis member
        refine ⟨line :: earlier, found, later, rfl, ?_⟩
        rw [joined_cons, byteLength_append, byteLength_cons, break_size]
        congr 1
        omega

theorem segmentAt_mem
    (body : Body)
    (offset : Nat) :
    body.segmentAt offset ∈ body.segments := by
  unfold segmentAt
  cases found : body.segments.reverse.find? fun segment =>
    decide (segment.start ≤ offset) with
  | none => exact List.mem_cons_self
  | some segment => exact List.mem_reverse.mp (List.mem_of_find?_eq_some found)

/-- The segment at a byte position does not start behind it. -/
theorem start_segmentAt_le
    (body : Body)
    (offset : Nat) :
    (body.segmentAt offset).start ≤ offset := by
  unfold segmentAt
  cases found : body.segments.reverse.find? fun segment =>
    decide (segment.start ≤ offset) with
  | none => exact Nat.zero_le offset
  | some segment => simpa using List.find?_some found

/-- A piece is clipped from one of the lines, or it is a point on a line that
does not start behind the text. -/
theorem mem_pieces_cases
    {body : Body}
    {before text : List Char}
    {piece : Piece}
    (member : piece ∈ (body.textAt before text).pieces) :
    ∃ earlier line later, body.lines = earlier ++ line :: later ∧
      ((segmentOf (byteLength (joined earlier)) line).clip? (byteLength before)
          (byteLength before + byteLength text) = some piece ∨
        byteLength (joined earlier) ≤ byteLength before ∧
          piece = (segmentOf (byteLength (joined earlier)) line).pointAt
            (byteLength before)) := by
  have onLine {segment : Segment}
      (isSegment : segment ∈ body.segments) :
      ∃ earlier line later, body.lines = earlier ++ line :: later ∧
        segment = segmentOf (byteLength (joined earlier)) line := by
    have segments : body.segments = segmentsFrom 0 body.lines := rfl
    rw [segments] at isSegment
    simpa only [Nat.zero_add] using exists_split_of_mem_segmentsFrom isSegment
  unfold textAt at member
  dsimp only at member
  split at member
  · obtain rfl := List.mem_singleton.mp member
    obtain ⟨earlier, line, later, split, segmentEq⟩ :=
      onLine (body.segmentAt_mem (byteLength before))
    have start := body.start_segmentAt_le (byteLength before)
    rw [segmentEq] at start ⊢
    exact ⟨earlier, line, later, split, Or.inr ⟨start, rfl⟩⟩
  · rename_i first others clipped
    have found : piece ∈ body.segments.filterMap fun segment =>
        segment.clip? (byteLength before)
          (byteLength before + byteLength text) := by
      rw [clipped]
      exact member
    obtain ⟨segment, isSegment, given⟩ := List.mem_filterMap.mp found
    obtain ⟨earlier, line, later, split, rfl⟩ := onLine isSegment
    exact ⟨earlier, line, later, split, Or.inl given⟩

theorem liesOn_of_clip?
    {line : BodyLine}
    {position start stop : Nat}
    {piece : Piece}
    (clipped : (segmentOf position line).clip? start stop = some piece) :
    piece.LiesOn line := by
  unfold Segment.clip? at clipped
  split at clipped
  · rename_i meets
    obtain rfl := Option.some.inj clipped
    simp only [segmentOf, Segment.stop] at meets
    refine ⟨rfl, ?_, ?_⟩
    · simp only [segmentOf]
      omega
    · simp only [segmentOf, Segment.stop]
      omega
  · exact absurd clipped (by simp)

theorem liesOn_pointAt
    (line : BodyLine)
    (position offset : Nat) :
    ((segmentOf position line).pointAt offset).LiesOn line := by
  refine ⟨rfl, ?_, ?_⟩
  · simp only [Segment.pointAt, segmentOf]
    omega
  · simp only [Segment.pointAt, segmentOf]
    omega

/-- Every piece of a text lies on a line of the body. -/
theorem exists_liesOn
    {body : Body}
    {before text : List Char}
    {piece : Piece}
    (member : piece ∈ (body.textAt before text).pieces) :
    ∃ line ∈ body.lines, piece.LiesOn line := by
  obtain ⟨earlier, line, later, split, clipped | ⟨_, rfl⟩⟩ :=
    mem_pieces_cases member
  · exact ⟨line, by simp [split], liesOn_of_clip? clipped⟩
  · exact ⟨line, by simp [split], liesOn_pointAt line _ _⟩

end Body

end DocLint
