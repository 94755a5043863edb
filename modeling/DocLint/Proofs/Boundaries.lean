import Mathlib.Data.List.TakeWhile

/-!
# Taking and dropping at a boundary

A run of one class of characters is cut exactly where a text starts outside of
that class.
-/

namespace DocLint

/-- A text that does not start with a character of a class. -/
def StartsOutside (inClass : Char → Bool) (text : List Char) : Prop :=
  ∀ c, text.head? = some c → inClass c = false

theorem startsOutside_cons
    {inClass : Char → Bool}
    {c : Char}
    (outside : inClass c = false)
    (rest : List Char) :
    StartsOutside inClass (c :: rest) := by
  rintro d ⟨⟩
  exact outside

theorem startsOutside_append
    {inClass : Char → Bool}
    {front rest : List Char}
    (outside : ∀ c ∈ front, inClass c = false)
    (apart : StartsOutside inClass rest) :
    StartsOutside inClass (front ++ rest) := by
  cases front with
  | nil => exact apart
  | cons c more => exact startsOutside_cons (outside c List.mem_cons_self) _

theorem startsOutside_append_of_ne_nil
    {inClass : Char → Bool}
    {front : List Char}
    (nonempty : front ≠ [])
    (outside : ∀ c ∈ front, inClass c = false)
    (rest : List Char) :
    StartsOutside inClass (front ++ rest) := by
  cases front with
  | nil => exact absurd rfl nonempty
  | cons c more => exact startsOutside_cons (outside c List.mem_cons_self) _

theorem takeWhile_eq_nil
    {inClass : Char → Bool}
    {text : List Char}
    (outside : StartsOutside inClass text) :
    text.takeWhile inClass = [] := by
  cases text with
  | nil => rfl
  | cons c more => simp [outside c rfl]

theorem takeWhile_append
    {inClass : Char → Bool}
    {front rest : List Char}
    (inside : ∀ c ∈ front, inClass c = true)
    (outside : StartsOutside inClass rest) :
    (front ++ rest).takeWhile inClass = front := by
  rw [List.takeWhile_append_of_pos inside, takeWhile_eq_nil outside,
    List.append_nil]

theorem dropWhile_append
    {inClass : Char → Bool}
    {front rest : List Char}
    (inside : ∀ c ∈ front, inClass c = true)
    (outside : StartsOutside inClass rest) :
    (front ++ rest).dropWhile inClass = rest := by
  rw [List.dropWhile_append_of_pos inside]
  cases rest with
  | nil => rfl
  | cons c more => simp [outside c rfl]

theorem startsOutside_dropWhile
    (inClass : Char → Bool)
    (text : List Char) :
    StartsOutside inClass (text.dropWhile inClass) := by
  intro c head
  have stops := List.head?_dropWhile_not inClass text
  rw [head] at stops
  simpa using stops

end DocLint
