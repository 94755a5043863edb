import DocLint.Proofs.Checked.Cuts
import DocLint.Proofs.Rearranging

/-!
# The text of each alternative and the text around it

The positions of alternatives cut a text without a rest: blanks, the text of an
alternative, blanks around one separator, the next alternative, and so on up to
the blanks at the end.  What is cut out for an alternative can be read alone and
gives that alternative again.
-/

namespace DocLint

open Text Checked

/-! ## Texts between alternatives -/

/-- Blanks around exactly one comma or semicolon. -/
def IsDivider (text : List Char) : Prop :=
  ∃ before c after, text = before ++ c :: after ∧
    (∀ d ∈ before, isBlank d = true) ∧ isSeparator c = true ∧
    ∀ d ∈ after, isBlank d = true

section Around

variable {text : List Char}
variable {alternatives : List Alternative}

/-- Only blanks stand in front of the first alternative. -/
theorem Arranged.exists_front
    {offset : Nat}
    {first : Alternative}
    (arranged : Arranged offset text (first :: alternatives)) :
    ∃ blanks rest, text = blanks ++ rest ∧ (∀ c ∈ blanks, isBlank c = true) ∧
      first.start = offset + byteLength blanks := by
  cases arranged with
  | @one _ before raw after _ blanks =>
      exact ⟨before, raw ++ after, List.append_assoc _ _ _, blanks, rfl⟩
  | @more _ before raw after rest c _ _ blanks =>
      exact ⟨before, raw ++ (after ++ c :: rest), by simp, blanks, rfl⟩

/-- Only blanks stand behind the last alternative. -/
theorem Arranged.exists_back
    {offset : Nat}
    (arranged : Arranged offset text alternatives)
    {last : Alternative}
    (isLast : alternatives.getLast? = some last) :
    ∃ front blanks, text = front ++ blanks ∧ (∀ c ∈ blanks, isBlank c = true) ∧
      last.stop = offset + byteLength front := by
  induction arranged with
  | @one offset before raw after type _ _ afterBlanks =>
      rw [List.getLast?_singleton] at isLast
      obtain rfl := Option.some.inj isLast
      refine ⟨before ++ raw, after, rfl, afterBlanks, ?_⟩
      rw [byteLength_append, Nat.add_assoc]
  | @more offset before raw after rest c type others _ _ _ _ arranged
      hypothesis =>
      have notEmpty : others ≠ [] := by
        rintro rfl
        cases arranged
      rw [List.getLast?_cons_of_ne_nil notEmpty] at isLast
      obtain ⟨front, blanks, rfl, allBlank, stop⟩ := hypothesis isLast
      refine ⟨before ++ raw ++ after ++ [c] ++ front, blanks, by simp, allBlank,
        ?_⟩
      rw [stop, byteLength_append _ front, Nat.add_assoc]

/-- One separator stands between an alternative and the next one, and blanks
around it.  The text may follow another one that is `lead` bytes long. -/
theorem Arranged.exists_divider
    (lead : List Char)
    (arranged : Arranged (byteLength lead) text alternatives)
    {left right : Alternative}
    (consecutive : [left, right] <:+: alternatives) :
    ∃ divider, partBetween (lead ++ text) left.stop right.start = .ok divider ∧
      IsDivider divider := by
  generalize position : byteLength lead = offset at arranged
  induction arranged generalizing lead with
  | one => exact absurd consecutive.length_le (by simp)
  | @more offset before raw after rest c type others _ _ afterBlanks separates
      arranged hypothesis =>
      rcases List.infix_cons_iff.mp consecutive with starts | later
      · obtain ⟨rfl, behind⟩ := List.cons_prefix_cons.mp starts
        obtain ⟨further, rfl⟩ := behind
        obtain ⟨blanks, remaining, rfl, allBlank, start⟩ :=
          arranged.exists_front
        refine ⟨after ++ c :: blanks, ?_, after, c, blanks, rfl, afterBlanks,
          separates, allBlank⟩
        rw [partBetween_eq_ok_iff]
        refine ⟨lead ++ before ++ raw, remaining, by simp, ?_, ?_⟩
        · simp only [byteLength_append, ← position]
        · rw [start, ← position]
          simp only [byteLength_append, byteLength_cons, byteLength_nil]
          omega
      · have moved : byteLength (lead ++ (before ++ raw ++ after ++ [c])) =
            offset + byteLength (before ++ raw ++ after ++ [c]) := by
          rw [byteLength_append, position]
        have found := hypothesis _ later moved
        rwa [List.append_assoc lead, List.append_assoc _ [c],
          List.singleton_append] at found

end Around

/-! ## The text of one alternative -/

namespace TypeExpr

/-- A text that writes an expression is read as that expression alone. -/
theorem parseAlternatives_of_writes
    {raw : List Char}
    {type : TypeExpr}
    (writes : Writes raw type)
    (bound : type.nesting ≤ maxNesting) :
    parseAlternatives raw = .ok [⟨type, 0, byteLength raw⟩] := by
  rw [parseAlternatives_eq_ok_iff_arranged]
  refine Or.inr ⟨?_, ?_⟩
  · have arranged : Arranged 0 ([] ++ raw ++ []) _ :=
      .one (by simp) writes (by simp)
    simpa using arranged
  · simpa [nestingOfList] using bound

end TypeExpr

/-- Where alternatives stand in a text.  A part of a text is found only between
positions that lie in the text and split no character. -/
structure AreLocated
    (text : List Char)
    (alternatives : List Alternative) : Prop where
  bounds : ∀ alternative ∈ alternatives,
    alternative.start < alternative.stop ∧
      alternative.stop ≤ byteLength text
  increasing : alternatives.Pairwise fun left right => left.stop < right.start
  /-- A text without alternatives is blank. -/
  none : alternatives = [] → ∀ c ∈ text, isBlank c = true
  front : ∀ first, alternatives.head? = some first →
    ∃ blanks, partBetween text 0 first.start = .ok blanks ∧
      ∀ c ∈ blanks, isBlank c = true
  between : ∀ left right, [left, right] <:+: alternatives →
    ∃ divider, partBetween text left.stop right.start = .ok divider ∧
      IsDivider divider
  back : ∀ last, alternatives.getLast? = some last →
    ∃ blanks, partFrom text last.stop = .ok blanks ∧
      ∀ c ∈ blanks, isBlank c = true
  /-- The text of an alternative gives it again. -/
  alone : ∀ alternative ∈ alternatives,
    ∃ raw, partBetween text alternative.start alternative.stop = .ok raw ∧
      TypeExpr.parseAlternatives raw =
        .ok [⟨alternative.type, 0, byteLength raw⟩]

namespace Arranged

variable {text : List Char}
variable {alternatives : List Alternative}

theorem areLocated
    (arranged : Arranged 0 text alternatives)
    (bound : TypeExpr.nestingOfList (alternatives.map Alternative.type) ≤
      maxNesting) :
    AreLocated text alternatives where
  bounds := by
    intro alternative member
    have bounds := arranged.bounds member
    omega
  increasing := arranged.pairwise_lt
  none := by
    rintro rfl
    cases arranged
  front := by
    intro first isFirst
    obtain ⟨others, rfl⟩ := List.head?_eq_some_iff.mp isFirst
    obtain ⟨blanks, rest, rfl, allBlank, start⟩ := arranged.exists_front
    refine ⟨blanks, ?_, allBlank⟩
    rw [start, partBetween_eq_ok_iff]
    exact ⟨[], rest, rfl, rfl, rfl⟩
  between := by
    intro left right consecutive
    exact exists_divider [] arranged consecutive
  back := by
    intro last isLast
    obtain ⟨front, blanks, rfl, allBlank, stop⟩ := arranged.exists_back isLast
    refine ⟨blanks, ?_, allBlank⟩
    rw [stop, Nat.zero_add, partFrom_append]
  alone := by
    intro alternative member
    obtain ⟨raw, ⟨⟨front, back, rfl, start⟩, stop⟩, writes⟩ :=
      arranged.exists_raw member
    refine ⟨raw, ?_, TypeExpr.parseAlternatives_of_writes writes ?_⟩
    · rw [stop, start, Nat.zero_add, partBetween_append]
    · exact TypeExpr.nestingOfList_le_iff.mp bound _ (List.mem_map_of_mem member)

end Arranged

/-- The alternatives of a text are located exactly: they follow each other with
one separator between two, only blanks stand around them, and the text of each
is read alone as the same alternative. -/
theorem areLocated_of_parsed
    {text : List Char}
    {alternatives : List Alternative}
    (parsed : TypeExpr.parseAlternatives text = .ok alternatives) :
    AreLocated text alternatives := by
  rcases parseAlternatives_eq_ok_iff_arranged.mp parsed with
    ⟨blanks, rfl⟩ | ⟨arranged, bound⟩
  · exact
      { bounds := by simp
        increasing := .nil
        none := fun _ => blanks
        front := by simp
        between := by simp
        back := by simp
        alone := by simp }
  · exact arranged.areLocated bound

/-- A text with two alternatives that has blanks, both separators and characters
of several bytes. -/
def spacedOut : List Char :=
  "  Array<é ; B> ,\t::Ärger::X\x7b#b=>c\x7d\u00A0".toList

/-- The first alternative has a separator inside, and a blank of two bytes
follows the last one. -/
theorem areLocated_spaced_out :
    ∃ alternatives, TypeExpr.parseAlternatives spacedOut = .ok alternatives ∧
      (alternatives.map fun alternative =>
        (alternative.start, alternative.stop)) = [(2, 15), (18, 36)] ∧
      byteLength spacedOut = 38 ∧ AreLocated spacedOut alternatives := by
  have positions : (TypeExpr.parseAlternatives spacedOut).toOption.map
      (fun alternatives => alternatives.map fun alternative =>
        (alternative.start, alternative.stop)) = some [(2, 15), (18, 36)] := by
    decide +kernel
  cases parsed : TypeExpr.parseAlternatives spacedOut with
  | error _ =>
      rw [parsed] at positions
      exact absurd positions (by simp [Except.toOption])
  | ok alternatives =>
      rw [parsed] at positions
      exact ⟨alternatives, rfl, Option.some.inj positions, by decide +kernel,
        areLocated_of_parsed parsed⟩

end DocLint
