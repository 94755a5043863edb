import DocLint.Check.TagTypes
import DocLint.Proofs.CommentShape
import DocLint.Proofs.CorrectionSpan
import DocLint.Proofs.Rearranging
import Mathlib.Data.List.Nodup

/-!
# Corrections on the lines of a tag

Corrections are given by source lines and columns, and the alternatives they
replace by positions in the types of a tag.  When the lines of a tag have
numbers of their own, both are the same edit of the tag's body, seen line by
line and seen as a whole.
-/

namespace DocLint

open Text

/-! ## Corrections as an edit -/

/-- The edit of a source line that corrections make. -/
def Edit.ofCorrections (corrections : List Correction) (line : Nat) : Edit where
  inserted column :=
    corrections.flatMap fun correction =>
      if correction.span.line = line ∧ correction.span.startColumn = column then
        correction.replacement.toList
      else []
  removed column :=
    corrections.any fun correction =>
      decide (correction.span.line = line ∧
        correction.span.startColumn ≤ column ∧
        column < correction.span.endColumn)

/-- A comment line with the bytes of each correction's span replaced. -/
def CommentLine.corrected
    (corrections : List Correction)
    (comment : CommentLine) : CommentLine :=
  let edit := Edit.ofCorrections corrections comment.line
  { comment with
    text := String.ofList
      (edit.apply comment.column comment.text.toList ++
        edit.inserted comment.endColumn) }

/-! ## Lists with one item that counts -/

theorem flatMap_eq_of_unique
    {α β : Type}
    {items : List α}
    {parts : α → List β}
    {item : α}
    (nodup : items.Nodup)
    (member : item ∈ items)
    (others : ∀ other ∈ items, other ≠ item → parts other = []) :
    items.flatMap parts = parts item := by
  obtain ⟨front, back, rfl⟩ := List.append_of_mem member
  have inFront : front.flatMap parts = [] := by
    apply List.flatMap_eq_nil_iff.mpr
    intro other otherMember
    apply others other (by simp [otherMember])
    rintro rfl
    exact (List.nodup_append.mp nodup).2.2 other otherMember other
      List.mem_cons_self rfl
  have inBack : back.flatMap parts = [] := by
    apply List.flatMap_eq_nil_iff.mpr
    intro other otherMember
    apply others other (by simp [otherMember])
    rintro rfl
    exact (List.nodup_cons.mp (List.nodup_append.mp nodup).2.1).1 otherMember
  rw [List.flatMap_append, List.flatMap_cons, inFront, inBack]
  simp

/-- An item is found at one place of a list, when a property tells items
apart. -/
theorem split_eq_of_nodup
    {α β : Type}
    {property : α → β}
    {items front otherFront back otherBack : List α}
    {item other : α}
    (nodup : (items.map property).Nodup)
    (split : items = front ++ item :: back)
    (otherSplit : items = otherFront ++ other :: otherBack)
    (same : property item = property other) :
    front = otherFront ∧ item = other := by
  rw [split] at otherSplit nodup
  have apart {left right : List α} {first second : α}
      (distinct : ((left ++ first :: right).map property).Nodup)
      (member : second ∈ right)
      (equal : property first = property second) : False := by
    rw [List.map_append, List.map_cons] at distinct
    have behind := (List.nodup_cons.mp (List.nodup_append.mp distinct).2.1).1
    rw [equal] at behind
    exact behind (List.mem_map_of_mem member)
  rcases List.append_eq_append_iff.mp otherSplit with
    ⟨between, rfl, behind⟩ | ⟨between, rfl, behind⟩
  · cases between with
    | nil =>
        obtain ⟨rfl, _⟩ := List.cons.inj behind
        exact ⟨(List.append_nil front).symm, rfl⟩
    | cons first more =>
        obtain ⟨rfl, rfl⟩ := List.cons.inj behind
        exact (apart nodup (by simp) same).elim
  · rw [otherSplit] at nodup
    cases between with
    | nil =>
        obtain ⟨rfl, _⟩ := List.cons.inj behind
        exact ⟨List.append_nil otherFront, rfl⟩
    | cons first more =>
        obtain ⟨rfl, rfl⟩ := List.cons.inj behind
        exact (apart nodup (by simp) same.symm).elim

/-! ## Stretches on one line -/

namespace Body

/-- A stretch of a body's text stands on one line behind its indentation, some
bytes from the start of the line, and a span tells where. -/
structure OnLine
    (body : Body)
    (start stop : Nat)
    (span : Span)
    (earlier : List BodyLine)
    (line : BodyLine)
    (left : Nat) : Prop where
  split : ∃ later, body.lines = earlier ++ line :: later
  start_eq : start = byteLength (joined earlier) + left
  nonempty : start < stop
  behindBlanks : byteLength (leadingBlanks line.chars) ≤ left
  inLine : left + (stop - start) ≤ byteLength line.chars
  span_eq : span =
    ⟨line.line, line.column + left, line.column + left + (stop - start)⟩

/-- The blanks in front of a character that is none. -/
theorem byteLength_leadingBlanks_le
    {c : Char}
    (notBlank : isBlank c = false)
    (left right : List Char) :
    byteLength (leadingBlanks (left ++ c :: right)) ≤ byteLength left := by
  obtain ⟨blanksEq, _⟩ := cut_leadingBlanks notBlank left right
  have whole := congrArg byteLength (leadingBlanks_append_trimStart left)
  rw [byteLength_append] at whole
  rw [blanksEq]
  omega

/-- An alternative that is found stands on one line. -/
theorem exists_onLine
    {body : Body}
    {before text after raw : List Char}
    {alternative : Alternative}
    (chars : body.chars = before ++ text ++ after)
    (standsOn : StandsOn 0 text raw alternative)
    (writes : Writes raw alternative.type)
    (located : ((body.textAt before text).locate? alternative.start
      alternative.stop).isSome = true) :
    ∃ earlier line left,
      body.OnLine (byteLength before + alternative.start)
        (byteLength before + alternative.stop)
        (Check.alternativeSpan (body.textAt before text) alternative)
        earlier line left := by
  have stop := standsOn.stop
  have positive := byteLength_pos writes.ne_nil
  rcases locate?_cases chars standsOn writes with
    ⟨earlier, line, later, left, right, split, lineEq, position, found⟩ |
    ⟨_, _, _, _, _, _, _, _, _, _, _, _, notFound, _⟩
  · obtain ⟨c, head, notBlank⟩ := writes.tight.head
    obtain ⟨more, rfl⟩ := List.head?_eq_some_iff.mp head
    rw [byteLength_append] at position
    have lineLength := congrArg byteLength lineEq
    rw [byteLength_append, byteLength_append] at lineLength
    refine ⟨earlier, line, byteLength left, ⟨later, split⟩, position, by omega, ?_,
      by omega, ?_⟩
    · rw [lineEq, List.append_assoc]
      exact byteLength_leadingBlanks_le notBlank left (more ++ right)
    · rw [Check.alternativeSpan_of_located found, Nat.add_sub_add_left, stop,
        Nat.add_sub_cancel_left]
  · rw [notFound] at located
    exact absurd located (by simp)

/-- Lines that follow each other cover different positions. -/
theorem split_eq_of_position
    {body : Body}
    {earlier later otherEarlier otherLater : List BodyLine}
    {line other : BodyLine}
    (split : body.lines = earlier ++ line :: later)
    (otherSplit : body.lines = otherEarlier ++ other :: otherLater)
    {position : Nat}
    (lower : byteLength (joined earlier) ≤ position)
    (upper : position < byteLength (joined earlier) + byteLength line.chars)
    (otherLower : byteLength (joined otherEarlier) ≤ position)
    (otherUpper : position <
      byteLength (joined otherEarlier) + byteLength other.chars) :
    earlier = otherEarlier ∧ line = other := by
  rw [split] at otherSplit
  -- A line that stands further back starts behind the end of the first one.
  have further (front more : List BodyLine) (first : BodyLine) :
      byteLength (joined front) + byteLength first.chars <
        byteLength (joined (front ++ first :: more)) := by
    rw [joined_append, joined_cons, byteLength_append, byteLength_append,
      byteLength_cons, break_size]
    omega
  rcases List.append_eq_append_iff.mp otherSplit with
    ⟨between, rfl, behind⟩ | ⟨between, rfl, behind⟩
  · cases between with
    | nil =>
        obtain ⟨rfl, _⟩ := List.cons.inj behind
        exact ⟨(List.append_nil earlier).symm, rfl⟩
    | cons first more =>
        obtain ⟨rfl, rfl⟩ := List.cons.inj behind
        have apart := further earlier more line
        omega
  · cases between with
    | nil =>
        obtain ⟨rfl, _⟩ := List.cons.inj behind
        exact ⟨List.append_nil otherEarlier, rfl⟩
    | cons first more =>
        obtain ⟨rfl, rfl⟩ := List.cons.inj behind
        have apart := further otherEarlier more other
        omega

end Body

/-! ## Corrections and alternatives -/

/-- The corrections on the lines of a body are those of the renewed alternatives
of some types that start at a byte position of the body. -/
structure Corrects
    (corrections : List Correction)
    (body : Body)
    (base : Nat)
    (renewal : Renewal)
    (alternatives : List Alternative)
    (correctionOf : Alternative → Correction) : Prop where
  nodup : corrections.Nodup
  lines : (body.lines.map BodyLine.line).Nodup
  starts : (alternatives.map Alternative.start).Nodup
  /-- Every correction on a line of the body comes from an alternative. -/
  origin : ∀ correction ∈ corrections, ∀ line ∈ body.lines,
    correction.span.line = line.line →
    ∃ old ∈ alternatives, (renewal old).isSome = true ∧
      correction = correctionOf old
  /-- Every renewed alternative is corrected on one line. -/
  located : ∀ old ∈ alternatives, (renewal old).isSome = true →
    correctionOf old ∈ corrections ∧
    (correctionOf old).replacement.toList = renewal.text [] old ∧
    ∃ earlier line left, body.OnLine (base + old.start) (base + old.stop)
      (correctionOf old).span earlier line left

namespace Corrects

variable {corrections : List Correction}
variable {body : Body}
variable {base : Nat}
variable {renewal : Renewal}
variable {alternatives : List Alternative}
variable {correctionOf : Alternative → Correction}

/-- A correction on a line is the correction of an alternative there. -/
theorem exists_onLine
    (corrects : Corrects corrections body base renewal alternatives correctionOf)
    {earlier later : List BodyLine}
    {line : BodyLine}
    (split : body.lines = earlier ++ line :: later)
    {correction : Correction}
    (member : correction ∈ corrections)
    (sameLine : correction.span.line = line.line) :
    ∃ old ∈ alternatives, (renewal old).isSome = true ∧
      correction = correctionOf old ∧
      ∃ left, body.OnLine (base + old.start) (base + old.stop)
        correction.span earlier line left := by
  obtain ⟨old, oldMember, renewed, rfl⟩ := corrects.origin correction member line
    (by simp [split]) sameLine
  obtain ⟨_, _, otherEarlier, other, left, onLine⟩ :=
    corrects.located old oldMember renewed
  obtain ⟨otherLater, otherSplit⟩ := onLine.split
  rw [onLine.span_eq] at sameLine
  obtain ⟨rfl, rfl⟩ := split_eq_of_nodup corrects.lines otherSplit split sameLine
  exact ⟨old, oldMember, renewed, rfl, left, onLine⟩

/-- Outside of a line's part in the body, corrections do nothing. -/
theorem keeps_outside
    (corrects : Corrects corrections body base renewal alternatives correctionOf)
    {line : BodyLine}
    (member : line ∈ body.lines)
    {column : Nat}
    (outside : column < line.column ∨
      line.column + byteLength line.chars ≤ column) :
    (Edit.ofCorrections corrections line.line).Keeps column := by
  obtain ⟨earlier, later, split⟩ := List.append_of_mem member
  have apart : ∀ correction ∈ corrections,
      correction.span.line = line.line →
      column < correction.span.startColumn ∨
        correction.span.endColumn ≤ column ∧
          correction.span.startColumn < column := by
    intro correction correctionMember sameLine
    obtain ⟨old, _, _, _, left, onLine⟩ :=
      corrects.exists_onLine split correctionMember sameLine
    have nonempty := onLine.nonempty
    have inLine := onLine.inLine
    rw [onLine.span_eq]
    dsimp only
    omega
  constructor
  · apply List.flatMap_eq_nil_iff.mpr
    intro correction correctionMember
    apply if_neg
    rintro ⟨sameLine, start⟩
    have away := apart correction correctionMember sameLine
    omega
  · apply List.any_eq_false.mpr
    intro correction correctionMember
    rw [decide_eq_true_eq]
    rintro ⟨sameLine, lower, upper⟩
    have away := apart correction correctionMember sameLine
    omega

section Agreement

variable {earlier later : List BodyLine}
variable {line : BodyLine}
variable {distance : Nat}

theorem start_lt_stop
    (corrects : Corrects corrections body base renewal alternatives correctionOf)
    {old : Alternative}
    (oldMember : old ∈ alternatives)
    (renewed : (renewal old).isSome = true) :
    old.start < old.stop := by
  obtain ⟨_, _, _, _, _, onLine⟩ := corrects.located old oldMember renewed
  have nonempty := onLine.nonempty
  omega

/-- A renewed alternative is corrected on the line that holds one of its
bytes. -/
theorem onLine_of_position
    (corrects : Corrects corrections body base renewal alternatives correctionOf)
    (split : body.lines = earlier ++ line :: later)
    (within : distance < byteLength line.chars)
    {old : Alternative}
    (oldMember : old ∈ alternatives)
    (renewed : (renewal old).isSome = true)
    (lower : base + old.start ≤ byteLength (Body.joined earlier) + distance)
    (upper : byteLength (Body.joined earlier) + distance < base + old.stop) :
    ∃ left, body.OnLine (base + old.start) (base + old.stop)
      (correctionOf old).span earlier line left := by
  obtain ⟨_, _, otherEarlier, other, left, onLine⟩ :=
    corrects.located old oldMember renewed
  obtain ⟨otherLater, otherSplit⟩ := onLine.split
  have start := onLine.start_eq
  have inLine := onLine.inLine
  obtain ⟨rfl, rfl⟩ := Body.split_eq_of_position split otherSplit
    (Nat.le_add_right _ distance) (by omega) (by omega) (by omega)
  exact ⟨left, onLine⟩

/-- A correction that starts at a byte of a line is that of an alternative which
starts there in the body. -/
theorem exists_of_startColumn
    (corrects : Corrects corrections body base renewal alternatives correctionOf)
    (split : body.lines = earlier ++ line :: later)
    {correction : Correction}
    (member : correction ∈ corrections)
    (place : correction.span.line = line.line ∧
      correction.span.startColumn = line.column + distance) :
    ∃ old ∈ alternatives, (renewal old).isSome = true ∧
      correction = correctionOf old ∧
      base + old.start = byteLength (Body.joined earlier) + distance := by
  obtain ⟨old, oldMember, renewed, equal, left, onLine⟩ :=
    corrects.exists_onLine split member place.1
  have start := onLine.start_eq
  have column := place.2
  rw [onLine.span_eq] at column
  dsimp only at column
  exact ⟨old, oldMember, renewed, equal, by omega⟩

/-- At a byte where a renewed alternative starts, its text is inserted on the
line as in the body. -/
theorem inserted_eq_of_start
    (corrects : Corrects corrections body base renewal alternatives correctionOf)
    (split : body.lines = earlier ++ line :: later)
    (within : distance < byteLength line.chars)
    {old : Alternative}
    (oldMember : old ∈ alternatives)
    (renewed : (renewal old).isSome = true)
    (position : base + old.start =
      byteLength (Body.joined earlier) + distance) :
    (Edit.ofCorrections corrections line.line).inserted
        (line.column + distance) =
      (Edit.ofAlternatives base renewal alternatives).inserted
        (byteLength (Body.joined earlier) + distance) := by
  -- No other alternative starts at the position.
  have sameStart {other : Alternative} (otherMember : other ∈ alternatives)
      (starts : base + other.start = base + old.start) : other = old :=
    List.inj_on_of_nodup_map corrects.starts otherMember oldMember (by omega)
  obtain ⟨member, replacement, _⟩ := corrects.located old oldMember renewed
  have nonempty := corrects.start_lt_stop oldMember renewed
  obtain ⟨left, onLine⟩ := corrects.onLine_of_position split within oldMember
    renewed (by omega) (by omega)
  have place : (correctionOf old).span.line = line.line ∧
      (correctionOf old).span.startColumn = line.column + distance := by
    have start := onLine.start_eq
    rw [onLine.span_eq]
    dsimp only
    exact ⟨rfl, by omega⟩
  simp only [Edit.ofCorrections, Edit.ofAlternatives]
  rw [flatMap_eq_of_unique corrects.nodup member, if_pos place, replacement,
    flatMap_eq_of_unique corrects.starts.of_map oldMember, if_pos position]
  · intro another anotherMember different
    apply if_neg
    intro samePosition
    exact different (sameStart anotherMember (by omega))
  · intro another anotherMember different
    apply if_neg
    intro samePlace
    obtain ⟨origin, originMember, _, rfl, originStart⟩ :=
      corrects.exists_of_startColumn split anotherMember samePlace
    obtain rfl := sameStart originMember (by omega)
    exact different rfl

/-- The same text is inserted on a line and in the body. -/
theorem inserted_eq
    (corrects : Corrects corrections body base renewal alternatives correctionOf)
    (split : body.lines = earlier ++ line :: later)
    (within : distance < byteLength line.chars) :
    (Edit.ofCorrections corrections line.line).inserted
        (line.column + distance) =
      (Edit.ofAlternatives base renewal alternatives).inserted
        (byteLength (Body.joined earlier) + distance) := by
  by_cases here : ∃ old ∈ alternatives, (renewal old).isSome = true ∧
      base + old.start = byteLength (Body.joined earlier) + distance
  · obtain ⟨old, oldMember, renewed, position⟩ := here
    exact corrects.inserted_eq_of_start split within oldMember renewed position
  · simp only [Edit.ofCorrections, Edit.ofAlternatives]
    rw [List.flatMap_eq_nil_iff.mpr, List.flatMap_eq_nil_iff.mpr]
    · intro old oldMember
      by_cases position : base + old.start =
          byteLength (Body.joined earlier) + distance
      · have notRenewed : renewal old = none := by
          by_contra renewed
          exact here ⟨old, oldMember, Option.isSome_iff_ne_none.mpr renewed,
            position⟩
        rw [if_pos position, Renewal.text, notRenewed]
        rfl
      · exact if_neg position
    · intro correction member
      apply if_neg
      intro place
      obtain ⟨old, oldMember, renewed, _, position⟩ :=
        corrects.exists_of_startColumn split member place
      exact here ⟨old, oldMember, renewed, position⟩

/-- The same bytes are left out on a line and in the body. -/
theorem removed_eq
    (corrects : Corrects corrections body base renewal alternatives correctionOf)
    (split : body.lines = earlier ++ line :: later)
    (within : distance < byteLength line.chars) :
    (Edit.ofCorrections corrections line.line).removed
        (line.column + distance) =
      (Edit.ofAlternatives base renewal alternatives).removed
        (byteLength (Body.joined earlier) + distance) := by
  rw [Bool.eq_iff_iff]
  simp only [Edit.ofCorrections, Edit.ofAlternatives, List.any_eq_true,
    decide_eq_true_eq, Bool.and_eq_true]
  constructor
  · rintro ⟨correction, member, sameLine, lower, upper⟩
    obtain ⟨old, oldMember, renewed, _, left, onLine⟩ :=
      corrects.exists_onLine split member sameLine
    have start := onLine.start_eq
    have nonempty := onLine.nonempty
    rw [onLine.span_eq] at lower upper
    dsimp only at lower upper
    exact ⟨old, oldMember, renewed, by omega, by omega⟩
  · rintro ⟨old, oldMember, renewed, lower, upper⟩
    obtain ⟨left, onLine⟩ := corrects.onLine_of_position split within oldMember
      renewed lower upper
    have start := onLine.start_eq
    refine ⟨correctionOf old, (corrects.located old oldMember renewed).1, ?_⟩
    rw [onLine.span_eq]
    dsimp only
    exact ⟨rfl, by omega, by omega⟩

/-- Corrections on a line are the edit of the body there. -/
theorem apply_eq
    (corrects : Corrects corrections body base renewal alternatives correctionOf)
    (split : body.lines = earlier ++ line :: later) :
    (Edit.ofCorrections corrections line.line).apply line.column line.chars =
      (Edit.ofAlternatives base renewal alternatives).apply
        (byteLength (Body.joined earlier)) line.chars := by
  apply Edit.apply_congr
  intro distance within
  exact ⟨corrects.inserted_eq split within, corrects.removed_eq split within⟩

end Agreement

/-- The breaks between the lines are kept. -/
theorem keeps_join
    (corrects : Corrects corrections body base renewal alternatives correctionOf)
    {join : Nat}
    (isJoin : body.IsJoin join) :
    (Edit.ofAlternatives base renewal alternatives).Keeps join := by
  apply Edit.keeps_ofAlternatives
  intro old member renewed
  obtain ⟨_, _, earlier, line, left, onLine⟩ :=
    corrects.located old member renewed
  obtain ⟨later, split⟩ := onLine.split
  have start := onLine.start_eq
  have nonempty := onLine.nonempty
  have inLine := onLine.inLine
  refine ⟨by omega, ?_⟩
  by_contra inside
  exact Body.not_isJoin split (by omega) (by omega) isJoin

end Corrects

/-! ## Corrected comment lines -/

/-- A body line with the bytes of each correction's span replaced. -/
def BodyLine.corrected
    (corrections : List Correction)
    (line : BodyLine) : BodyLine :=
  { line with
    chars := (Edit.ofCorrections corrections line.line).apply line.column
      line.chars }

namespace CommentLine

variable {corrections : List Correction}
variable {comment : CommentLine}

theorem samePlace_corrected
    (corrections : List Correction)
    (comment : CommentLine) :
    SamePlace comment (comment.corrected corrections) :=
  ⟨rfl, rfl, rfl⟩

/-- A line without corrections stays as it is. -/
theorem corrected_eq_self
    (absent : ∀ correction ∈ corrections,
      correction.span.line ≠ comment.line) :
    comment.corrected corrections = comment := by
  have keeps (column : Nat) :
      (Edit.ofCorrections corrections comment.line).Keeps column := by
    constructor
    · apply List.flatMap_eq_nil_iff.mpr
      intro correction member
      apply if_neg
      exact fun place => absent correction member place.1
    · apply List.any_eq_false.mpr
      intro correction member
      rw [decide_eq_true_eq]
      exact fun place => absent correction member place.1
  have applied : (Edit.ofCorrections corrections comment.line).apply
      comment.column comment.text.toList = comment.text.toList :=
    Edit.apply_of_keeps fun distance _ => keeps _
  unfold corrected
  dsimp only
  rw [applied, (keeps _).1, List.append_nil, String.ofList_toList]

/-- Corrections change the end of a comment line that a body line is. -/
theorem text_corrected
    {body : Body}
    {base : Nat}
    {renewal : Renewal}
    {alternatives : List Alternative}
    {correctionOf : Alternative → Correction}
    (corrects : Corrects corrections body base renewal alternatives correctionOf)
    {line : BodyLine}
    (member : line ∈ body.lines)
    {front : List Char}
    (lineEq : line.line = comment.line)
    (text : comment.text.toList = front ++ line.chars)
    (column : line.column = comment.column + byteLength front) :
    (comment.corrected corrections).text.toList =
      front ++ (line.corrected corrections).chars := by
  have onFront : (Edit.ofCorrections corrections line.line).apply
      comment.column front = front := by
    apply Edit.apply_of_keeps
    intro distance within
    exact corrects.keeps_outside member (Or.inl (by omega))
  have atEnd : (Edit.ofCorrections corrections line.line).inserted
      comment.endColumn = [] := by
    have endEq : comment.endColumn =
        line.column + byteLength line.chars := by
      rw [endColumn, text, byteLength_append, column, Nat.add_assoc]
    exact (corrects.keeps_outside member (Or.inr (Nat.le_of_eq endEq.symm))).1
  unfold corrected
  dsimp only
  rw [String.toList_ofList, ← lineEq, text, Edit.apply_append, onFront, atEnd,
    ← column, List.append_nil]
  rfl

end CommentLine

end DocLint
