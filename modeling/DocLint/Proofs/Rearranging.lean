import DocLint.Proofs.Arrangement
import DocLint.Proofs.Editing

/-!
# Exchanging alternatives in a text

An edit that replaces some of the alternatives of a text keeps all that stands
between them.  What comes out is an arrangement again: of the new alternatives
where there are some, and of the old ones elsewhere.
-/

namespace DocLint

open Text

/-- What stands in the place of an alternative: another text, with the type that
it writes, or nothing else. -/
abbrev Renewal := Alternative → Option (List Char × TypeExpr)

namespace Renewal

/-- The text that stands in the place of an alternative. -/
def text (renewal : Renewal) (raw : List Char) (old : Alternative) : List Char :=
  ((renewal old).map Prod.fst).getD raw

/-- The type that stands in the place of an alternative. -/
def type (renewal : Renewal) (old : Alternative) : TypeExpr :=
  ((renewal old).map Prod.snd).getD old.type

/-- Every new text writes its new type. -/
def IsWritten (renewal : Renewal) : Prop :=
  ∀ (raw : List Char) (old : Alternative), Writes raw old.type →
    Writes (renewal.text raw old) (renewal.type old)

end Renewal

/-! ## The edit of alternatives -/

/-- The edit that puts new texts in the place of alternatives, whose positions
count from a byte position on. -/
def Edit.ofAlternatives
    (base : Nat)
    (renewal : Renewal)
    (alternatives : List Alternative) : Edit where
  inserted position :=
    alternatives.flatMap fun old =>
      if base + old.start = position then renewal.text [] old else []
  removed position :=
    alternatives.any fun old =>
      (renewal old).isSome &&
        decide (base + old.start ≤ position ∧ position < base + old.stop)

namespace Edit

variable {base : Nat}
variable {renewal : Renewal}
variable {alternatives : List Alternative}

/-- Nothing happens outside of the alternatives that are renewed. -/
theorem keeps_ofAlternatives
    {position : Nat}
    (outside : ∀ old ∈ alternatives, (renewal old).isSome = true →
      old.start < old.stop ∧
        (position < base + old.start ∨ base + old.stop ≤ position)) :
    (ofAlternatives base renewal alternatives).Keeps position := by
  constructor
  · apply List.flatMap_eq_nil_iff.mpr
    intro old member
    cases renewed : renewal old with
    | none => simp [Renewal.text, renewed]
    | some written =>
        obtain ⟨nonempty, apart⟩ := outside old member (by simp [renewed])
        exact if_neg (by omega)
  · apply List.any_eq_false.mpr
    intro old member
    cases renewed : renewal old with
    | none => simp
    | some written =>
        obtain ⟨nonempty, apart⟩ := outside old member (by simp [renewed])
        have notInside :
            ¬ (base + old.start ≤ position ∧ position < base + old.stop) := by
          omega
        simp [notInside]

theorem agrees_ofAlternatives_head
    {first : Alternative}
    {position : Nat}
    (keeps : (ofAlternatives base renewal alternatives).Keeps position) :
    (ofAlternatives base renewal (first :: alternatives)).Agrees
      (ofAlternatives base renewal [first]) position position := by
  obtain ⟨inserted, removed⟩ := keeps
  simp only [ofAlternatives] at inserted removed
  constructor
  · simp only [ofAlternatives, List.flatMap_cons, inserted, List.flatMap_nil]
  · simp only [ofAlternatives, List.any_cons, removed, List.any_nil]

theorem agrees_ofAlternatives_tail
    {first : Alternative}
    {position : Nat}
    (keeps : (ofAlternatives base renewal [first]).Keeps position) :
    (ofAlternatives base renewal (first :: alternatives)).Agrees
      (ofAlternatives base renewal alternatives) position position := by
  obtain ⟨inserted, removed⟩ := keeps
  simp only [ofAlternatives, List.flatMap_cons, List.flatMap_nil,
    List.append_nil] at inserted
  simp only [ofAlternatives, List.any_cons, List.any_nil, Bool.or_false]
    at removed
  constructor
  · simp only [ofAlternatives, List.flatMap_cons, inserted, List.nil_append]
  · simp only [ofAlternatives, List.any_cons, removed, Bool.false_or]

/-- A single alternative is exchanged in place. -/
theorem apply_ofAlternatives_singleton
    (renewal : Renewal)
    {offset : Nat}
    {before raw after : List Char}
    {old : Alternative}
    (nonempty : raw ≠ [])
    (start : old.start = offset + byteLength before)
    (stop : old.stop = old.start + byteLength raw) :
    (ofAlternatives base renewal [old]).apply (base + offset)
        (before ++ raw ++ after) =
      before ++ renewal.text raw old ++ after := by
  have positive := byteLength_pos nonempty
  have keeps {position : Nat}
      (apart : position < base + old.start ∨ base + old.stop ≤ position) :
      (ofAlternatives base renewal [old]).Keeps position := by
    apply keeps_ofAlternatives
    intro other member _
    obtain rfl := List.mem_singleton.mp member
    exact ⟨by omega, apart⟩
  have onBefore : (ofAlternatives base renewal [old]).apply (base + offset)
      before = before := by
    apply apply_of_keeps
    intro distance within
    apply keeps
    omega
  have onRaw : (ofAlternatives base renewal [old]).apply
      (base + offset + byteLength before) raw = renewal.text raw old := by
    have here : base + offset + byteLength before = base + old.start := by
      omega
    rw [here]
    cases renewed : renewal old with
    | none =>
        have textEq : renewal.text raw old = raw := by
          simp [Renewal.text, renewed]
        rw [textEq]
        apply apply_of_keeps
        intro distance within
        simp [Keeps, ofAlternatives, Renewal.text, renewed]
    | some written =>
        have textEq (other : List Char) :
            renewal.text other old = written.1 := by
          simp [Renewal.text, renewed]
        rw [textEq]
        apply apply_of_replaced nonempty
        · simp [ofAlternatives, textEq]
        · intro distance within behind
          have apart : distance ≠ 0 := by
            omega
          simp [ofAlternatives, apart]
        · intro distance within
          have inside : base + old.start ≤ base + old.start + distance ∧
              base + old.start + distance < base + old.stop := by
            omega
          simp [ofAlternatives, renewed, inside]
  have onAfter : (ofAlternatives base renewal [old]).apply
      (base + offset + byteLength (before ++ raw)) after = after := by
    apply apply_of_keeps
    intro distance within
    apply keeps
    rw [byteLength_append]
    omega
  rw [apply_append, apply_append, onBefore, onRaw, onAfter]

/-- The first alternative is exchanged in the front of a text, and the others in
the rest behind it. -/
theorem apply_ofAlternatives_cons
    (renewal : Renewal)
    {offset : Nat}
    {before raw after : List Char}
    {old : Alternative}
    (nonempty : raw ≠ [])
    (start : old.start = offset + byteLength before)
    (stop : old.stop = old.start + byteLength raw)
    (behind : ∀ other ∈ alternatives,
      offset + byteLength (before ++ raw ++ after) ≤ other.start ∧
        other.start < other.stop)
    (rest : List Char) :
    (ofAlternatives base renewal (old :: alternatives)).apply (base + offset)
        (before ++ raw ++ after ++ rest) =
      before ++ renewal.text raw old ++ after ++
        (ofAlternatives base renewal alternatives).apply
          (base + offset + byteLength (before ++ raw ++ after)) rest := by
  have onFront : (ofAlternatives base renewal (old :: alternatives)).apply
      (base + offset) (before ++ raw ++ after) =
        before ++ renewal.text raw old ++ after := by
    rw [← apply_ofAlternatives_singleton renewal nonempty start stop]
    apply apply_congr
    intro distance within
    apply agrees_ofAlternatives_head
    apply keeps_ofAlternatives
    intro other member _
    obtain ⟨later, otherNonempty⟩ := behind other member
    exact ⟨otherNonempty, by omega⟩
  have onRest : (ofAlternatives base renewal (old :: alternatives)).apply
      (base + offset + byteLength (before ++ raw ++ after)) rest =
        (ofAlternatives base renewal alternatives).apply
          (base + offset + byteLength (before ++ raw ++ after)) rest := by
    have positive := byteLength_pos nonempty
    have lengths : byteLength (before ++ raw ++ after) =
        byteLength before + byteLength raw + byteLength after := by
      rw [byteLength_append, byteLength_append]
    apply apply_congr
    intro distance within
    apply agrees_ofAlternatives_tail
    apply keeps_ofAlternatives
    intro other member _
    obtain rfl := List.mem_singleton.mp member
    exact ⟨by omega, by omega⟩
  rw [apply_append, onFront, onRest]

end Edit

/-! ## The new arrangement -/

/-- One alternative stands in a new text where another stood in an old one. -/
structure Renews
    (renewal : Renewal)
    (text newText : List Char)
    (offset newOffset : Nat)
    (old new : Alternative) : Prop where
  type : new.type = renewal.type old
  standsOn : ∃ raw, StandsOn offset text raw old ∧
    StandsOn newOffset newText (renewal.text raw old) new

theorem Renews.append_left
    {renewal : Renewal}
    {front newFront text newText : List Char}
    {offset newOffset : Nat}
    {old new : Alternative}
    (renews : Renews renewal text newText (offset + byteLength front)
      (newOffset + byteLength newFront) old new) :
    Renews renewal (front ++ text) (newFront ++ newText) offset newOffset
      old new := by
  obtain ⟨type, raw, standsOn, newStandsOn⟩ := renews
  exact ⟨type, raw, standsOn.append_left, newStandsOn.append_left⟩

/-- The positions of an alternative in an arrangement. -/
theorem Arranged.bounds
    {offset : Nat}
    {text : List Char}
    {alternatives : List Alternative}
    (arranged : Arranged offset text alternatives)
    {old : Alternative}
    (member : old ∈ alternatives) :
    offset ≤ old.start ∧ old.start < old.stop ∧
      old.stop ≤ offset + byteLength text := by
  obtain ⟨raw, ⟨⟨front, back, rfl, start⟩, stop⟩, writes⟩ :=
    arranged.exists_raw member
  have positive := byteLength_pos writes.ne_nil
  rw [byteLength_append, byteLength_append]
  omega

/-- Each alternative of an arrangement stops before the next ones start, with a
separator at least between them. -/
theorem Arranged.pairwise_lt
    {offset : Nat}
    {text : List Char}
    {alternatives : List Alternative}
    (arranged : Arranged offset text alternatives) :
    alternatives.Pairwise fun old later => old.stop < later.start := by
  induction arranged with
  | one => exact List.pairwise_singleton _ _
  | @more offset before raw after rest c type alternatives blanks writes
      afterBlanks separates arranged hypothesis =>
      refine List.pairwise_cons.mpr ⟨?_, hypothesis⟩
      intro later member
      have bounds := arranged.bounds member
      have positive := c.utf8Size_pos
      simp only [byteLength_append, byteLength_cons, byteLength_nil] at bounds
      dsimp only
      omega

theorem Arranged.pairwise
    {offset : Nat}
    {text : List Char}
    {alternatives : List Alternative}
    (arranged : Arranged offset text alternatives) :
    alternatives.Pairwise fun old later => old.stop ≤ later.start :=
  arranged.pairwise_lt.imp Nat.le_of_lt

/-- No two alternatives of an arrangement start at the same position. -/
theorem Arranged.nodup_starts
    {offset : Nat}
    {text : List Char}
    {alternatives : List Alternative}
    (arranged : Arranged offset text alternatives) :
    (alternatives.map Alternative.start).Nodup := by
  refine List.pairwise_map.mpr (arranged.pairwise.imp_of_mem ?_)
  intro old later member _ ordered
  have bounds := arranged.bounds member
  omega

/-- A text that can be read has no characters but blanks and those of types. -/
theorem Arranged.typed
    {offset : Nat}
    {text : List Char}
    {alternatives : List Alternative}
    (arranged : Arranged offset text alternatives)
    {c : Char}
    (member : c ∈ text) :
    isBlank c = true ∨ isTypeChar c = true := by
  obtain ⟨tokens, tokensAt, _⟩ := arranged.exists_listed
  exact tokensAt.mem_cases member

section Parsed

variable {text : List Char}
variable {alternatives : List Alternative}

theorem nodup_starts_of_parsed
    (parsed : TypeExpr.parseAlternatives text = .ok alternatives) :
    (alternatives.map Alternative.start).Nodup := by
  rcases parseAlternatives_eq_ok_iff_arranged.mp parsed with
    ⟨_, rfl⟩ | ⟨arranged, _⟩
  · exact List.nodup_nil
  · exact arranged.nodup_starts

theorem pairwise_of_parsed
    (parsed : TypeExpr.parseAlternatives text = .ok alternatives) :
    alternatives.Pairwise fun old later => old.stop ≤ later.start := by
  rcases parseAlternatives_eq_ok_iff_arranged.mp parsed with
    ⟨_, rfl⟩ | ⟨arranged, _⟩
  · exact List.Pairwise.nil
  · exact arranged.pairwise

theorem typed_of_parsed
    (parsed : TypeExpr.parseAlternatives text = .ok alternatives)
    {c : Char}
    (member : c ∈ text) :
    isBlank c = true ∨ isTypeChar c = true := by
  rcases parseAlternatives_eq_ok_iff_arranged.mp parsed with
    ⟨blanks, _⟩ | ⟨arranged, _⟩
  · exact Or.inl (blanks c member)
  · exact arranged.typed member

theorem stop_le_of_parsed
    (parsed : TypeExpr.parseAlternatives text = .ok alternatives)
    {old : Alternative}
    (member : old ∈ alternatives) :
    old.stop ≤ byteLength text := by
  rcases parseAlternatives_eq_ok_iff_arranged.mp parsed with
    ⟨_, rfl⟩ | ⟨arranged, _⟩
  · exact absurd member (by simp)
  · have bounds := arranged.bounds member
    omega

end Parsed

/-- The edit of alternatives turns an arrangement into one of the alternatives
that stand in their places. -/
theorem Arranged.exists_renewed
    {renewal : Renewal}
    (isWritten : renewal.IsWritten)
    (base : Nat)
    {offset : Nat}
    {text : List Char}
    {alternatives : List Alternative}
    (arranged : Arranged offset text alternatives)
    (newOffset : Nat) :
    ∃ newText newAlternatives,
      (Edit.ofAlternatives base renewal alternatives).apply (base + offset)
        text = newText ∧
      Arranged newOffset newText newAlternatives ∧
      ∀ new ∈ newAlternatives, ∃ old ∈ alternatives,
        Renews renewal text newText offset newOffset old new := by
  induction arranged generalizing newOffset with
  | @one offset before raw after type blanks writes afterBlanks =>
      have newWrites := isWritten raw
        ⟨type, offset + byteLength before,
          offset + byteLength before + byteLength raw⟩ writes
      refine ⟨_, _, Edit.apply_ofAlternatives_singleton renewal writes.ne_nil rfl
        rfl, .one blanks newWrites afterBlanks, ?_⟩
      intro new member
      obtain rfl := List.mem_singleton.mp member
      refine ⟨_, List.mem_singleton.mpr rfl, rfl, raw, ?_, ?_⟩
      · exact ⟨⟨before, after, rfl, rfl⟩, rfl⟩
      · exact ⟨⟨before, after, rfl, rfl⟩, rfl⟩
  | @more offset before raw after rest c type alternatives blanks writes
      afterBlanks separates arranged hypothesis =>
      let old : Alternative := ⟨type, offset + byteLength before,
        offset + byteLength before + byteLength raw⟩
      have newWrites := isWritten raw old writes
      obtain ⟨newRest, newAlternatives, applied, newArranged, renews⟩ :=
        hypothesis (newOffset + byteLength
          (before ++ renewal.text raw old ++ after ++ [c]))
      have textEq : before ++ raw ++ after ++ c :: rest =
          (before ++ raw ++ after ++ [c]) ++ rest := by
        simp
      have newTextEq : before ++ renewal.text raw old ++ after ++ c :: newRest =
          (before ++ renewal.text raw old ++ after ++ [c]) ++ newRest := by
        simp
      have edited : (Edit.ofAlternatives base renewal
          (old :: alternatives)).apply (base + offset)
            (before ++ raw ++ after ++ c :: rest) =
          before ++ renewal.text raw old ++ after ++ c :: newRest := by
        rw [← Nat.add_assoc] at applied
        rw [textEq, newTextEq, ← applied, List.append_assoc _ after,
          List.append_assoc _ after]
        apply Edit.apply_ofAlternatives_cons renewal writes.ne_nil rfl rfl
        intro other member
        have bounds := arranged.bounds member
        rw [← List.append_assoc _ after]
        exact ⟨bounds.1, bounds.2.1⟩
      refine ⟨before ++ renewal.text raw old ++ after ++ c :: newRest, _, edited,
        .more blanks newWrites afterBlanks separates newArranged, ?_⟩
      intro new member
      rcases List.mem_cons.mp member with rfl | member
      · refine ⟨old, List.mem_cons_self, rfl, raw, ?_, ?_⟩
        · exact ⟨⟨before, after ++ c :: rest, by simp, rfl⟩, rfl⟩
        · exact ⟨⟨before, after ++ c :: newRest, by simp, rfl⟩, rfl⟩
      · obtain ⟨other, otherMember, otherRenews⟩ := renews new member
        refine ⟨other, List.mem_cons_of_mem old otherMember, ?_⟩
        rw [textEq, newTextEq]
        exact otherRenews.append_left

/-! ## Reading the new text -/

theorem TypeExpr.nestingOfList_le_iff
    {types : List TypeExpr}
    {bound : Nat} :
    nestingOfList types ≤ bound ↔ ∀ type ∈ types, type.nesting ≤ bound := by
  induction types with
  | nil => simp [nestingOfList]
  | cons type rest hypothesis =>
      rw [nestingOfList, Nat.max_le, hypothesis, List.forall_mem_cons]

/-- The edited text is read as the alternatives that stand in the places of the
old ones, when these nest as deep as before. -/
theorem exists_renewed_of_parsed
    {renewal : Renewal}
    (isWritten : renewal.IsWritten)
    (nesting : ∀ old, (renewal.type old).nesting = old.type.nesting)
    (base : Nat)
    {text : List Char}
    {alternatives : List Alternative}
    (parsed : TypeExpr.parseAlternatives text = .ok alternatives) :
    ∃ newText newAlternatives,
      (Edit.ofAlternatives base renewal alternatives).apply base text =
        newText ∧
      TypeExpr.parseAlternatives newText = .ok newAlternatives ∧
      ∀ new ∈ newAlternatives, ∃ old ∈ alternatives,
        Renews renewal text newText 0 0 old new := by
  rcases parseAlternatives_eq_ok_iff_arranged.mp parsed with
    ⟨_, rfl⟩ | ⟨arranged, bound⟩
  · refine ⟨text, [], ?_, parsed, by simp⟩
    apply Edit.apply_of_keeps
    intro distance within
    exact Edit.keeps_ofAlternatives (by simp)
  · obtain ⟨newText, newAlternatives, applied, newArranged, renews⟩ :=
      arranged.exists_renewed isWritten base 0
    refine ⟨newText, newAlternatives, applied, ?_, renews⟩
    apply parseAlternatives_eq_ok_iff_arranged.mpr
    refine Or.inr ⟨newArranged, ?_⟩
    rw [TypeExpr.nestingOfList_le_iff] at bound ⊢
    intro type member
    obtain ⟨new, newMember, rfl⟩ := List.mem_map.mp member
    obtain ⟨old, oldMember, oldRenews⟩ := renews new newMember
    rw [oldRenews.type, nesting old]
    exact bound old.type (List.mem_map_of_mem oldMember)

end DocLint
