import DocLint.Proofs.CorrectedLines
import DocLint.Proofs.CorrectedTypes

/-!
# Blocks with corrected lines

Corrections change nothing in front of the types of a tag, and where they change
a line that starts inside the types, the line still starts with its indentation
and a character of a type.  So every corrected line keeps its shape, and the
corrected comment has the same blocks, each with the edited body.
-/

namespace DocLint

open Text

namespace Corrects

variable {corrections : List Correction}
variable {body : Body}
variable {base : Nat}
variable {renewal : Renewal}
variable {alternatives : List Alternative}
variable {correctionOf : Alternative → Correction}
variable {earlier later : List BodyLine}
variable {line : BodyLine}

/-! ## Where a line is edited -/

/-- A renewed alternative that covers a byte of a line starts on that line,
behind its indentation. -/
theorem start_of_covered
    (corrects : Corrects corrections body base renewal alternatives correctionOf)
    (split : body.lines = earlier ++ line :: later)
    {old : Alternative}
    (member : old ∈ alternatives)
    (renewed : (renewal old).isSome = true)
    {distance : Nat}
    (within : distance < byteLength line.chars)
    (lower : base + old.start ≤
      byteLength (Body.joined earlier) + distance)
    (upper : byteLength (Body.joined earlier) + distance < base + old.stop) :
    byteLength (Body.joined earlier) + byteLength (leadingBlanks line.chars) ≤
      base + old.start := by
  obtain ⟨left, onLine⟩ := corrects.onLine_of_position split within member
    renewed lower upper
  have start := onLine.start_eq
  have behindBlanks := onLine.behindBlanks
  omega

/-- The indentation of a line is kept. -/
theorem apply_leadingBlanks
    (corrects : Corrects corrections body base renewal alternatives correctionOf)
    (split : body.lines = earlier ++ line :: later) :
    (Edit.ofAlternatives base renewal alternatives).apply
        (byteLength (Body.joined earlier)) (leadingBlanks line.chars) =
      leadingBlanks line.chars := by
  have whole := congrArg byteLength (leadingBlanks_append_trimStart line.chars)
  rw [byteLength_append] at whole
  apply Edit.apply_of_keeps
  intro distance within
  apply Edit.keeps_ofAlternatives
  intro old member renewed
  refine ⟨corrects.start_lt_stop member renewed, ?_⟩
  by_contra covered
  have behind := corrects.start_of_covered split member renewed
    (show distance < byteLength line.chars by omega) (by omega) (by omega)
  omega

/-- A line is edited behind its indentation only. -/
theorem apply_behind_blanks
    (corrects : Corrects corrections body base renewal alternatives correctionOf)
    (split : body.lines = earlier ++ line :: later) :
    (Edit.ofAlternatives base renewal alternatives).apply
        (byteLength (Body.joined earlier)) line.chars =
      leadingBlanks line.chars ++
        (Edit.ofAlternatives base renewal alternatives).apply
          (byteLength (Body.joined earlier) +
            byteLength (leadingBlanks line.chars)) (trimStart line.chars) := by
  have parts := Edit.apply_append
    (Edit.ofAlternatives base renewal alternatives)
    (byteLength (Body.joined earlier)) (leadingBlanks line.chars)
    (trimStart line.chars)
  rw [corrects.apply_leadingBlanks split,
    leadingBlanks_append_trimStart] at parts
  exact parts

/-- Every renewed alternative starts with a character of a type. -/
def StartsTyped (renewal : Renewal) (alternatives : List Alternative) : Prop :=
  ∀ old ∈ alternatives, (renewal old).isSome = true →
    ∃ c more, renewal.text [] old = c :: more ∧ isTypeChar c = true

/-- What is inserted starts with a character of a type. -/
theorem inserted_cases
    (base position : Nat)
    (startsTyped : StartsTyped renewal alternatives) :
    (Edit.ofAlternatives base renewal alternatives).inserted position = [] ∨
      ∃ c more, (Edit.ofAlternatives base renewal alternatives).inserted
        position = c :: more ∧ isTypeChar c = true := by
  simp only [Edit.ofAlternatives]
  induction alternatives with
  | nil => exact Or.inl rfl
  | cons old rest hypothesis =>
      have behind := hypothesis fun other member =>
        startsTyped other (List.mem_cons_of_mem old member)
      rw [List.flatMap_cons]
      by_cases here : base + old.start = position
      · rw [if_pos here]
        cases renewed : renewal old with
        | none =>
            rw [Renewal.text, renewed]
            exact behind
        | some written =>
            obtain ⟨c, more, textEq, typeChar⟩ :=
              startsTyped old List.mem_cons_self (by simp [renewed])
            rw [textEq]
            exact Or.inr ⟨c, _, rfl, typeChar⟩
      · rw [if_neg here]
        exact behind

/-- The first character of a line behind its indentation is kept, or a character
of a type is put in its place. -/
theorem apply_first_cases
    (corrects : Corrects corrections body base renewal alternatives correctionOf)
    (startsTyped : StartsTyped renewal alternatives)
    (split : body.lines = earlier ++ line :: later)
    {c : Char}
    {more : List Char}
    (trimmed : trimStart line.chars = c :: more) :
    ∃ d newMore,
      (Edit.ofAlternatives base renewal alternatives).apply
          (byteLength (Body.joined earlier)) line.chars =
        leadingBlanks line.chars ++ d :: newMore ∧
      (d = c ∨ isTypeChar d = true) := by
  have lengths := congrArg byteLength
    (leadingBlanks_append_trimStart line.chars)
  rw [trimmed, byteLength_append, byteLength_cons] at lengths
  have positive := c.utf8Size_pos
  rw [corrects.apply_behind_blanks split, trimmed, Edit.apply]
  rcases inserted_cases base (byteLength (Body.joined earlier) +
    byteLength (leadingBlanks line.chars)) startsTyped with
    nothing | ⟨d, inserted, insertedEq, typeChar⟩
  · -- Nothing starts here, so nothing that covers the character is renewed.
    have kept : (Edit.ofAlternatives base renewal alternatives).removed
        (byteLength (Body.joined earlier) +
          byteLength (leadingBlanks line.chars)) = false := by
      apply List.any_eq_false.mpr
      intro old member
      rw [Bool.and_eq_true, decide_eq_true_eq]
      rintro ⟨renewed, lower, upper⟩
      have behind := corrects.start_of_covered split member renewed
        (show byteLength (leadingBlanks line.chars) < byteLength line.chars by
          omega) lower upper
      have here : base + old.start = byteLength (Body.joined earlier) +
          byteLength (leadingBlanks line.chars) := by
        omega
      have part := List.flatMap_eq_nil_iff.mp nothing old member
      rw [if_pos here] at part
      obtain ⟨d, rest, textEq, _⟩ := startsTyped old member renewed
      rw [textEq] at part
      exact absurd part (by simp)
    rw [nothing, kept]
    exact ⟨c, _, rfl, Or.inl rfl⟩
  · rw [insertedEq, List.cons_append, List.cons_append]
    exact ⟨d, _, rfl, Or.inr typeChar⟩

/-! ## Lines before, at and behind the opening bracket -/

section Opening

variable {opening text after : List Char}

/-- A line is edited behind the opening bracket only: it is kept, or the bracket
stands on it and is kept with all before it, or the line starts behind the
bracket. -/
theorem apply_line_cases
    (corrects : Corrects corrections body base renewal alternatives correctionOf)
    (baseEq : base = byteLength (opening ++ ['[']))
    (chars : body.chars = opening ++ ['['] ++ text ++ after)
    (split : body.lines = earlier ++ line :: later) :
    ((Edit.ofAlternatives base renewal alternatives).apply
        (byteLength (Body.joined earlier)) line.chars = line.chars) ∨
    (∃ front rest newRest, line.chars = front ++ '[' :: rest ∧
      (Edit.ofAlternatives base renewal alternatives).apply
          (byteLength (Body.joined earlier)) line.chars =
        front ++ '[' :: newRest) ∨
    (∃ inside, Body.joined earlier = opening ++ ['['] ++ inside ∧
      text ++ after = inside ++ (line.chars ++ Body.following later)) := by
  have keepsFront {part : List Char}
      (inFront : byteLength (Body.joined earlier) + byteLength part ≤ base) :
      (Edit.ofAlternatives base renewal alternatives).apply
        (byteLength (Body.joined earlier)) part = part := by
    apply Edit.apply_of_keeps
    intro distance within
    apply Edit.keeps_ofAlternatives
    intro old member renewed
    exact ⟨corrects.start_lt_stop member renewed, by omega⟩
  have sides : Body.joined earlier ++ (line.chars ++ Body.following later) =
      opening ++ ['['] ++ (text ++ after) := by
    rw [← Body.chars_of_lines split, chars, List.append_assoc]
  rcases List.append_eq_append_iff.mp sides with
    ⟨front, openingEq, behind⟩ | ⟨inside, joinedEq, behind⟩
  · rcases List.eq_nil_or_concat front with rfl | ⟨before, last, rfl⟩
    · refine Or.inr (Or.inr ⟨[], ?_, behind.symm⟩)
      rw [List.append_nil] at openingEq ⊢
      exact openingEq.symm
    · rw [List.concat_eq_append, ← List.append_assoc] at openingEq
      obtain ⟨rfl, lastEq⟩ := List.append_inj' openingEq rfl
      obtain rfl : '[' = last := List.singleton_inj.mp lastEq
      rw [List.concat_eq_append] at behind
      have lengths : base = byteLength (Body.joined earlier) +
          byteLength (before ++ ['[']) := by
        rw [baseEq, List.append_assoc, byteLength_append]
      rcases List.append_eq_append_iff.mp behind with
        ⟨more, beforeEq, _⟩ | ⟨rest, lineEq, _⟩
      · refine Or.inl (keepsFront ?_)
        rw [lengths, beforeEq, byteLength_append]
        omega
      · let newRest :=
          (Edit.ofAlternatives base renewal alternatives).apply base rest
        refine Or.inr (Or.inl ⟨before, rest, newRest, ?_, ?_⟩)
        · rw [lineEq, List.append_assoc]
          rfl
        · rw [lineEq, Edit.apply_append, keepsFront (Nat.le_of_eq lengths.symm),
            ← lengths, List.append_assoc]
          rfl
  · exact Or.inr (Or.inr ⟨inside, joinedEq, behind⟩)

end Opening

end Corrects

/-- The corrections on the lines of a body are those of its types, which stand
behind an opening bracket. -/
structure CorrectsTypes
    (corrections : List Correction)
    (body : Body)
    (opening text after : List Char)
    (renewal : Renewal)
    (alternatives : List Alternative)
    (correctionOf : Alternative → Correction) : Prop where
  chars : body.chars = opening ++ ['['] ++ text ++ after
  corrects : Corrects corrections body (byteLength (opening ++ ['['])) renewal
    alternatives correctionOf
  startsTyped : Corrects.StartsTyped renewal alternatives
  typed : ∀ c ∈ text, isBlank c = true ∨ isTypeChar c = true
  inText : ∀ old ∈ alternatives, old.stop ≤ byteLength text

namespace CorrectsTypes

variable {corrections : List Correction}
variable {body : Body}
variable {opening text after : List Char}
variable {renewal : Renewal}
variable {alternatives : List Alternative}
variable {correctionOf : Alternative → Correction}

/-- Nothing is edited outside of the types. -/
theorem keeps_outside_types
    (correctsTypes : CorrectsTypes corrections body opening text after renewal
      alternatives correctionOf)
    {position : Nat}
    (outside : position < byteLength (opening ++ ['[']) ∨
      byteLength (opening ++ ['[']) + byteLength text ≤ position) :
    (Edit.ofAlternatives (byteLength (opening ++ ['['])) renewal
      alternatives).Keeps position := by
  apply Edit.keeps_ofAlternatives
  intro old member renewed
  have inText := correctsTypes.inText old member
  exact ⟨correctsTypes.corrects.start_lt_stop member renewed, by omega⟩

/-- A line behind the opening bracket that starts with an at sign is kept,
because it stands behind the types. -/
theorem apply_of_sign
    (correctsTypes : CorrectsTypes corrections body opening text after renewal
      alternatives correctionOf)
    {earlier later : List BodyLine}
    {line : BodyLine}
    (split : body.lines = earlier ++ line :: later)
    {inside more : List Char}
    (joinedEq : Body.joined earlier = opening ++ ['['] ++ inside)
    (behind : text ++ after =
      inside ++ (line.chars ++ Body.following later))
    (trimmed : trimStart line.chars = '@' :: more) :
    (Edit.ofAlternatives (byteLength (opening ++ ['['])) renewal
        alternatives).apply (byteLength (Body.joined earlier)) line.chars =
      line.chars := by
  have notTyped : isBlank '@' = false ∧ isTypeChar '@' = false := by
    decide
  have whole := leadingBlanks_append_trimStart line.chars
  rw [trimmed] at whole
  have beyond : byteLength text ≤
      byteLength (inside ++ leadingBlanks line.chars) := by
    have sides : text ++ after = (inside ++ leadingBlanks line.chars) ++
        '@' :: (more ++ Body.following later) := by
      rw [behind]
      nth_rewrite 1 [← whole]
      simp
    rcases List.append_eq_append_iff.mp sides with
      ⟨gap, insideEq, _⟩ | ⟨tail, textEq, tailEq⟩
    · rw [insideEq, byteLength_append]
      omega
    · cases tail with
      | nil =>
          rw [textEq, List.append_nil]
      | cons c rest =>
          obtain ⟨rfl, _⟩ := List.cons.inj tailEq
          have typed := correctsTypes.typed '@' (by simp [textEq])
          rw [notTyped.1, notTyped.2] at typed
          exact absurd typed (by simp)
  have position : byteLength (Body.joined earlier) =
      byteLength (opening ++ ['[']) + byteLength inside := by
    rw [joinedEq, byteLength_append]
  rw [byteLength_append] at beyond
  have onRest : (Edit.ofAlternatives (byteLength (opening ++ ['['])) renewal
      alternatives).apply (byteLength (Body.joined earlier) +
        byteLength (leadingBlanks line.chars)) ('@' :: more) =
      '@' :: more := by
    apply Edit.apply_of_keeps
    intro distance within
    exact correctsTypes.keeps_outside_types (Or.inr (by omega))
  rw [correctsTypes.corrects.apply_behind_blanks split, trimmed, onRest, whole]

end CorrectsTypes

/-! ## Corrected lines keep their shape -/

namespace CommentLine

variable {corrections : List Correction}
variable {comment : CommentLine}

theorem corrected_eq_of_text
    (text : (comment.corrected corrections).text.toList =
      comment.text.toList) :
    comment.corrected corrections = comment := by
  have textEq := String.toList_inj.mp text
  unfold corrected at textEq ⊢
  dsimp only at textEq ⊢
  rw [textEq]

/-- A line that continues a tag is indented. -/
theorem indentation_ne_nil
    {indent : Nat}
    (continues : comment.continues indent = true) :
    comment.indentation ≠ [] := by
  simp only [CommentLine.continues, Bool.and_eq_true, decide_eq_true_eq]
    at continues
  have deeper := continues.2
  intro empty
  rw [empty, byteLength_nil] at deeper
  exact Nat.not_lt_zero _ deeper

/-- A line that continues a tag has a character that is no blank. -/
theorem exists_first_of_continues
    {indent : Nat}
    (continues : comment.continues indent = true) :
    ∃ c more, trimStart comment.content = c :: more ∧ isBlank c = false := by
  simp only [CommentLine.continues, Bool.and_eq_true, Bool.not_eq_true'] at continues
  have notAll := continues.1.2
  cases trimmed : trimStart comment.content with
  | nil =>
      have allBlank : comment.content.all isBlank = true := by
        rw [List.all_eq_true]
        exact List.dropWhile_eq_nil_iff.mp trimmed
      rw [allBlank] at notAll
      exact absurd notAll (by simp)
  | cons c more =>
      refine ⟨c, more, rfl, ?_⟩
      apply startsOutside_dropWhile isBlank comment.content c
      rw [show comment.content.dropWhile isBlank = c :: more from trimmed]
      rfl

/-- A line that goes on with a tag keeps its shape when it is changed behind a
square bracket. -/
theorem sameShape_of_bracket
    {changed : CommentLine}
    (samePlace : SamePlace comment changed)
    {indent : Nat}
    (continues : comment.continues indent = true)
    {front rest newRest : List Char}
    (contentEq : comment.content = front ++ '[' :: rest)
    (text : changed.text.toList =
      comment.marker ++ (front ++ '[' :: newRest)) :
    SameShape comment changed := by
  have noDirective := TagBlock.directive?_of_continues continues
  have indented := indentation_ne_nil continues
  have opens := TypeListCut.isBlank_opening
  obtain ⟨blanksEq, trimmedEq⟩ := cut_leadingBlanks opens front rest
  have parts (more : List Char) : front ++ '[' :: more =
      leadingBlanks front ++ (trimStart front ++ '[' :: more) := by
    rw [← List.append_assoc, leadingBlanks_append_trimStart]
  have tight (more : List Char) : ∃ c,
      (trimStart front ++ '[' :: more).head? = some c ∧ isBlank c = false := by
    have outside := startsOutside_dropWhile isBlank front
    cases trimmed : trimStart front with
    | nil => exact ⟨'[', rfl, opens⟩
    | cons c others =>
        refine ⟨c, rfl, outside c ?_⟩
        rw [show front.dropWhile isBlank = c :: others from trimmed]
        rfl
  rw [indentation, contentEq, blanksEq] at indented
  have noDirectiveBehind := noDirective
  rw [directive?, contentEq, trimmedEq] at noDirectiveBehind
  rw [parts] at contentEq text
  apply sameShape_of_content samePlace noDirective contentEq text
  · exact fun c member => List.mem_takeWhile_imp member
  · exact indented
  · exact tight rest
  · exact tight newRest
  · intro more given
    cases trimmed : trimStart front with
    | nil =>
        rw [trimmed] at given
        exact absurd (List.cons.inj given).1 (by decide)
    | cons c others =>
        rw [trimmed, List.cons_append] at given noDirectiveBehind
        obtain ⟨rfl, rfl⟩ := List.cons.inj given
        have absent := Option.map_eq_none_iff.mp noDirectiveBehind
        exact cutDirective?_bracket absent newRest

end CommentLine

namespace CorrectsTypes

variable {corrections : List Correction}
variable {block : TagBlock}
variable {opening text after : List Char}
variable {renewal : Renewal}
variable {alternatives : List Alternative}
variable {correctionOf : Alternative → Correction}

theorem text_first
    (correctsTypes : CorrectsTypes corrections block.body opening text after
      renewal alternatives correctionOf)
    (isRead : block.IsRead) :
    (block.first.corrected corrections).text.toList =
      block.first.marker ++ (block.cut.indentation ++
        '@' :: block.cut.directive ++
          (block.body.firstLine.corrected corrections).chars) := by
  have textEq : block.first.text.toList =
      (block.first.marker ++ block.cut.indentation ++
        '@' :: block.cut.directive) ++ block.body.firstLine.chars := by
    rw [← CommentLine.marker_append_content,
      CommentLine.content_of_directive? isRead.directive]
    simp [TagBlock.body, CommentLine.tagLine]
  rw [CommentLine.text_corrected correctsTypes.corrects List.mem_cons_self rfl
    textEq rfl]
  simp only [List.append_assoc]

theorem text_further
    (correctsTypes : CorrectsTypes corrections block.body opening text after
      renewal alternatives correctionOf)
    {comment : CommentLine}
    (member : comment ∈ block.further) :
    (comment.corrected corrections).text.toList =
      comment.marker ++
        (comment.continuationLine.corrected corrections).chars :=
  CommentLine.text_corrected correctsTypes.corrects
    (List.mem_cons_of_mem _ (List.mem_map_of_mem member)) rfl
    (CommentLine.marker_append_content comment).symm rfl

/-- The line with the directive keeps its shape. -/
theorem sameShape_first
    (correctsTypes : CorrectsTypes corrections block.body opening text after
      renewal alternatives correctionOf)
    (isRead : block.IsRead) :
    SameShape block.first (block.first.corrected corrections) := by
  have split : block.body.lines =
      [] ++ block.body.firstLine :: block.body.otherLines := rfl
  have sameHead : (block.body.firstLine.corrected corrections).chars.head? =
      block.body.firstLine.chars.head? := by
    rw [BodyLine.corrected, correctsTypes.corrects.apply_eq split]
    rcases correctsTypes.corrects.apply_line_cases rfl correctsTypes.chars
      split with kept | ⟨front, rest, newRest, charsEq, newEq⟩ |
      ⟨inside, joinedEq, _⟩
    · rw [kept]
    · rw [newEq, charsEq]
      cases front <;> rfl
    · exact absurd joinedEq (by simp [Body.joined])
  exact CommentLine.sameShape_of_tagLine
    (CommentLine.samePlace_corrected corrections block.first) isRead.directive
    (correctsTypes.text_first isRead) sameHead

/-- A line that continues the tag keeps its shape. -/
theorem sameShape_further
    (correctsTypes : CorrectsTypes corrections block.body opening text after
      renewal alternatives correctionOf)
    (isRead : block.IsRead)
    {comment : CommentLine}
    (member : comment ∈ block.further) :
    SameShape comment (comment.corrected corrections) := by
  have continues := isRead.continues comment member
  obtain ⟨earlier, later, split⟩ : ∃ earlier later, block.body.lines =
      earlier ++ comment.continuationLine :: later := by
    apply List.append_of_mem
    exact List.mem_cons_of_mem _ (List.mem_map_of_mem member)
  have newText := correctsTypes.text_further member
  have applied := correctsTypes.corrects.apply_eq split
  have samePlace := CommentLine.samePlace_corrected corrections comment
  rw [BodyLine.corrected, applied] at newText
  have sameOfKept (kept : (Edit.ofAlternatives (byteLength (opening ++ ['[']))
      renewal alternatives).apply (byteLength (Body.joined earlier))
        comment.continuationLine.chars = comment.continuationLine.chars) :
      SameShape comment (comment.corrected corrections) := by
    rw [kept] at newText
    rw [CommentLine.corrected_eq_of_text
      (newText.trans (CommentLine.marker_append_content comment))]
    exact SameShape.refl comment
  rcases correctsTypes.corrects.apply_line_cases rfl correctsTypes.chars
    split with kept | ⟨front, rest, newRest, charsEq, newEq⟩ |
    ⟨inside, joinedEq, behind⟩
  · exact sameOfKept kept
  · rw [newEq] at newText
    exact CommentLine.sameShape_of_bracket samePlace continues charsEq newText
  · obtain ⟨c, more, trimmed, notBlank⟩ :=
      CommentLine.exists_first_of_continues continues
    by_cases sign : c = '@'
    · subst sign
      exact sameOfKept
        (correctsTypes.apply_of_sign split joinedEq behind trimmed)
    · obtain ⟨d, newMore, newEq, firstCases⟩ :=
        correctsTypes.corrects.apply_first_cases correctsTypes.startsTyped split
          trimmed
      have newFirst : isBlank d = false ∧ d ≠ '@' := by
        rcases firstCases with rfl | typeChar
        · exact ⟨notBlank, sign⟩
        · refine ⟨isBlank_eq_false_of_isTypeChar typeChar, ?_⟩
          rintro rfl
          exact absurd typeChar (by decide)
      have contentEq : comment.content =
          leadingBlanks comment.content ++ c :: more := by
        rw [← trimmed, leadingBlanks_append_trimStart]
      rw [newEq] at newText
      apply CommentLine.sameShape_of_content samePlace
        (TagBlock.directive?_of_continues continues) contentEq newText
      · exact fun e blank => List.mem_takeWhile_imp blank
      · exact CommentLine.indentation_ne_nil continues
      · exact ⟨c, rfl, notBlank⟩
      · exact ⟨d, rfl, newFirst.1⟩
      · intro others given
        exact absurd (List.cons.inj given).1 newFirst.2

/-! ## The body of a corrected block -/

/-- The body of the corrected lines is the body with its lines corrected. -/
theorem body_map
    (correctsTypes : CorrectsTypes corrections block.body opening text after
      renewal alternatives correctionOf)
    (isRead : block.IsRead) :
    (block.map (CommentLine.corrected corrections)).body =
      block.body.map (BodyLine.corrected corrections) := by
  have firstShape := correctsTypes.sameShape_first isRead
  obtain ⟨newAfter, newDirective⟩ :=
    firstShape.exists_directive? isRead.directive
  have afterEq : newAfter =
      (block.body.firstLine.corrected corrections).chars := by
    have textEq := correctsTypes.text_first isRead
    rw [← CommentLine.marker_append_content, firstShape.marker,
      CommentLine.content_of_directive? newDirective] at textEq
    exact List.append_cancel_left (List.append_cancel_left textEq)
  have furtherEq : ∀ comment ∈ block.further,
      (comment.corrected corrections).continuationLine =
        comment.continuationLine.corrected corrections := by
    intro comment member
    have shape := correctsTypes.sameShape_further isRead member
    have textEq := correctsTypes.text_further member
    rw [← CommentLine.marker_append_content, shape.marker] at textEq
    have contentEq := List.append_cancel_left textEq
    rw [CommentLine.continuationLine, contentEq, shape.marker, shape.line,
      shape.column]
    rfl
  have firstEq : (block.map (CommentLine.corrected corrections)).body.firstLine =
      block.body.firstLine.corrected corrections := by
    simp only [TagBlock.map, TagBlock.body, newDirective, Option.getD_some]
    rw [CommentLine.tagLine, firstShape.marker, firstShape.line,
      firstShape.column, afterEq]
    rfl
  have othersEq : (block.map (CommentLine.corrected corrections)).body.otherLines =
      block.body.otherLines.map (BodyLine.corrected corrections) := by
    simp only [TagBlock.map, TagBlock.body, List.map_map]
    exact List.map_congr_left furtherEq
  rw [Body.map, ← firstEq, ← othersEq]

/-- The text of the corrected body has the edited types between its brackets. -/
theorem chars_map
    (correctsTypes : CorrectsTypes corrections block.body opening text after
      renewal alternatives correctionOf) :
    (block.body.map (BodyLine.corrected corrections)).chars =
      opening ++ ['['] ++
        (Edit.ofAlternatives (byteLength (opening ++ ['['])) renewal
          alternatives).apply (byteLength (opening ++ ['['])) text ++ after := by
  have corrects := correctsTypes.corrects
  have applied : (Edit.ofAlternatives (byteLength (opening ++ ['['])) renewal
      alternatives).apply 0 block.body.chars =
        (block.body.map (BodyLine.corrected corrections)).chars := by
    apply Edit.apply_chars
    · intro earlier line later split
      exact (corrects.apply_eq split).symm
    · intro join isJoin
      exact corrects.keeps_join isJoin
  rw [← applied, correctsTypes.chars, Edit.apply_append, Edit.apply_append,
    Nat.zero_add, Nat.zero_add]
  congr 1
  · congr 1
    apply Edit.apply_of_keeps
    intro distance within
    exact correctsTypes.keeps_outside_types (Or.inl (by omega))
  · apply Edit.apply_of_keeps
    intro distance within
    rw [byteLength_append (opening ++ ['['])]
    exact correctsTypes.keeps_outside_types (Or.inr (by omega))

end CorrectsTypes

end DocLint
