import DocLint.Proofs.Grammar
import DocLint.Text.Bytes
import DocLint.Text.Words

/-!
# Operations that can fail

Elsewhere positions are read off the parts of a text, and a difference of
numbers is never negative.  A machine computes with byte positions: a position
may lie behind the end of a text or inside a character, the number that is taken
away may be the larger one, a list may have no first item.  The operations here
fail whenever one of this happens, and a computation made of them fails with
them.  So a computation that gives a result has used no position, difference or
item that is not there.
-/

namespace DocLint
namespace Checked

open Text

/-- What can go wrong in a computation with byte positions. -/
inductive Fault
  /-- A text is cut behind its end, or inside a character. -/
  | cut
  /-- A number is taken away from a smaller one. -/
  | difference
  /-- An item is taken from an empty list. -/
  | item
  /-- A loop goes on longer than its text. -/
  | standstill
  deriving DecidableEq, Repr

section Outcomes

variable {ε α β : Type}

@[simp] theorem ok_bind
    (value : α)
    (next : α → Except ε β) :
    (Except.ok value >>= next) = next value := rfl

/-- If every item is done, all of them are. -/
theorem mapM_eq_ok
    {step : α → Except ε β}
    {value : α → β}
    {items : List α}
    (done : ∀ item ∈ items, step item = .ok (value item)) :
    items.mapM step = .ok (items.map value) := by
  induction items with
  | nil => rfl
  | cons item items hypothesis =>
      have others := hypothesis fun other member =>
        done other (List.mem_cons_of_mem item member)
      rw [List.mapM_cons, done item (by simp), ok_bind, others, ok_bind]
      rfl

end Outcomes

/-! ## Cutting texts -/

/-- Cut a text at a byte position. -/
def cutAt : List Char → Nat → Except Fault (List Char × List Char)
  | text, 0 => .ok ([], text)
  | [], _ + 1 => .error .cut
  | c :: rest, position + 1 =>
    if position + 1 < c.utf8Size then .error .cut
    else do
      let (left, right) ← cutAt rest (position + 1 - c.utf8Size)
      return (c :: left, right)

/-- The part of a text from a byte position on. -/
def partFrom (text : List Char) (start : Nat) : Except Fault (List Char) := do
  let (_, right) ← cutAt text start
  return right

/-- The part of a text between two byte positions. -/
def partBetween
    (text : List Char)
    (start stop : Nat) : Except Fault (List Char) := do
  let (left, _) ← cutAt text stop
  partFrom left start

theorem cutAt_byteLength (left right : List Char) :
    cutAt (left ++ right) (byteLength left) = .ok (left, right) := by
  induction left with
  | nil => simp [cutAt]
  | cons c left hypothesis =>
      have positive := c.utf8Size_pos
      obtain ⟨position, length⟩ :
          ∃ position, byteLength (c :: left) = position + 1 :=
        Nat.exists_eq_add_one.mpr (by simp only [byteLength_cons]; omega)
      have onward : position + 1 - c.utf8Size = byteLength left := by
        simp only [byteLength_cons] at length
        omega
      have outside : ¬ position + 1 < c.utf8Size := by
        simp only [byteLength_cons] at length
        omega
      rw [length, List.cons_append, cutAt, if_neg outside, onward, hypothesis,
        ok_bind]
      rfl

/-- A text is cut at the positions where one of its characters starts and at its
end, and nowhere else. -/
theorem cutAt_eq_ok_iff
    {text left right : List Char}
    {position : Nat} :
    cutAt text position = .ok (left, right) ↔
      text = left ++ right ∧ position = byteLength left := by
  constructor
  · intro done
    fun_induction cutAt text position generalizing left right with
    | case1 text =>
        obtain ⟨rfl, rfl⟩ := Prod.mk.inj (Except.ok.inj done)
        exact ⟨rfl, rfl⟩
    | case2 => exact absurd done (by simp)
    | case3 => exact absurd done (by simp)
    | case4 c rest position outside hypothesis =>
        obtain ⟨⟨before, after⟩, cut, done⟩ := Parser.bind_eq_ok.mp done
        obtain ⟨rfl, rfl⟩ := Prod.mk.inj (Except.ok.inj done)
        obtain ⟨rfl, length⟩ := hypothesis cut
        refine ⟨rfl, ?_⟩
        simp only [byteLength_cons]
        omega
  · rintro ⟨rfl, rfl⟩
    exact cutAt_byteLength left right

/-- The part that is found is all of the text behind the position. -/
theorem partFrom_eq_ok_iff
    {text part : List Char}
    {start : Nat} :
    partFrom text start = .ok part ↔
      ∃ before, text = before ++ part ∧ start = byteLength before := by
  rw [partFrom, Parser.bind_eq_ok]
  constructor
  · rintro ⟨⟨before, after⟩, cut, done⟩
    obtain rfl := Except.ok.inj done
    exact ⟨before, cutAt_eq_ok_iff.mp cut⟩
  · rintro ⟨before, cut⟩
    exact ⟨(before, part), cutAt_eq_ok_iff.mpr cut, rfl⟩

/-- The part that is found stands between the positions, which do not lie behind
the end of the text, nor the first one behind the second. -/
theorem partBetween_eq_ok_iff
    {text part : List Char}
    {start stop : Nat} :
    partBetween text start stop = .ok part ↔
      ∃ before after, text = before ++ part ++ after ∧
        start = byteLength before ∧
        stop = byteLength before + byteLength part := by
  rw [partBetween, Parser.bind_eq_ok]
  constructor
  · rintro ⟨⟨left, after⟩, cut, done⟩
    obtain ⟨rfl, rfl⟩ := cutAt_eq_ok_iff.mp cut
    obtain ⟨before, rfl, startEq⟩ := partFrom_eq_ok_iff.mp done
    exact ⟨before, after, rfl, startEq, byteLength_append before part⟩
  · rintro ⟨before, after, textEq, startEq, stopEq⟩
    have cut : cutAt text stop = .ok (before ++ part, after) :=
      cutAt_eq_ok_iff.mpr
        ⟨textEq, stopEq.trans (byteLength_append before part).symm⟩
    exact ⟨_, cut, partFrom_eq_ok_iff.mpr ⟨before, rfl, startEq⟩⟩

@[simp] theorem partFrom_append (left right : List Char) :
    partFrom (left ++ right) (byteLength left) = .ok right :=
  partFrom_eq_ok_iff.mpr ⟨left, rfl, rfl⟩

theorem partBetween_append (before middle after : List Char) :
    partBetween (before ++ middle ++ after) (byteLength before)
      (byteLength before + byteLength middle) = .ok middle :=
  partBetween_eq_ok_iff.mpr ⟨before, after, rfl, rfl, rfl⟩

-- The bytes of a character are not parts of a text.
example : partBetween ['é', 't', 'é'] 2 3 = .ok ['t'] := by decide
example : partBetween ['é', 't', 'é'] 1 3 = .error .cut := by decide
example : partBetween ['é', 't', 'é'] 2 6 = .error .cut := by decide

/-! ## Numbers and lists -/

/-- What is left of a number when another one is taken away. -/
def subtract (number other : Nat) : Except Fault Nat :=
  if other ≤ number then .ok (number - other) else .error .difference

/-- A number is taken away where it is not the larger one. -/
theorem subtract_eq_ok_iff
    {number other rest : Nat} :
    subtract number other = .ok rest ↔ number = rest + other := by
  unfold subtract
  split
  · simp only [Except.ok.injEq]
    omega
  · simp only [reduceCtorEq, false_iff]
    omega

theorem subtract_of_le
    {number other : Nat}
    (less : other ≤ number) :
    subtract number other = .ok (number - other) :=
  subtract_eq_ok_iff.mpr (Nat.sub_add_cancel less).symm

@[simp] theorem subtract_add (number other : Nat) :
    subtract (number + other) other = .ok number :=
  subtract_eq_ok_iff.mpr rfl

@[simp] theorem add_subtract (number other : Nat) :
    subtract (other + number) other = .ok number := by
  rw [Nat.add_comm, subtract_add]

/-- What a text has more than the text behind its leading blanks. -/
theorem subtract_trimStart (text : List Char) :
    subtract (byteLength text) (byteLength (trimStart text)) =
      .ok (byteLength (leadingBlanks text)) := by
  have lengths : byteLength text =
      byteLength (leadingBlanks text) + byteLength (trimStart text) := by
    rw [← byteLength_append, leadingBlanks_append_trimStart]
  rw [lengths, subtract_add]

/-- A text can be cut behind blanks. -/
theorem partFrom_blanks (before rest : List Char) :
    partFrom (before ++ rest)
        (byteLength before + byteLength (leadingBlanks rest)) =
      .ok (trimStart rest) := by
  have behind := partFrom_append (before ++ leadingBlanks rest) (trimStart rest)
  rwa [List.append_assoc, leadingBlanks_append_trimStart, byteLength_append]
    at behind

theorem isBlank_eq_false_of_trimStart
    {text rest : List Char}
    {c : Char}
    (trimmed : trimStart text = c :: rest) :
    isBlank c = false := by
  have stops := List.head?_dropWhile_not isBlank text
  rw [← trimStart, trimmed] at stops
  simpa using stops

/-- The first item of a list. -/
def firstItem {α : Type} : List α → Except Fault α
  | [] => .error .item
  | item :: _ => .ok item

end Checked
end DocLint
