import DocLint.Proofs.Boundaries
import DocLint.Text.Class
import Mathlib.Tactic.ByContra

/-!
# Character classes that exclude each other

Blanks divide words, so no character of a name may be a blank.  Below `0x80`
the classes are decided character by character; above, they are tables of
ranges, and two tables exclude each other when no two of their ranges meet.
-/

namespace DocLint
namespace Text

namespace CodePoints

/-- No range of one set meets a range of the other. -/
def Disjoint (left right : CodePoints) : Prop :=
  ∀ range ∈ left.ranges, ∀ other ∈ right.ranges,
    range.2 < other.1 ∨ other.2 < range.1

instance (left right : CodePoints) : Decidable (left.Disjoint right) :=
  inferInstanceAs (Decidable (∀ range ∈ left.ranges, ∀ other ∈ right.ranges,
    range.2 < other.1 ∨ other.2 < range.1))

theorem contains_eq_true_iff
    {set : CodePoints}
    {c : Char} :
    set.contains c = true ↔
      ∃ range ∈ set.ranges, range.1 ≤ c.toNat ∧ c.toNat ≤ range.2 := by
  simp [contains, List.any_eq_true]

/-- A character of one set is in no set disjoint from it. -/
theorem Disjoint.contains_eq_false
    {left right : CodePoints}
    (disjoint : left.Disjoint right)
    {c : Char}
    (present : left.contains c = true) :
    right.contains c = false := by
  obtain ⟨range, rangeMem, lower, upper⟩ := contains_eq_true_iff.mp present
  by_contra found
  obtain ⟨other, otherMem, otherLower, otherUpper⟩ :=
    contains_eq_true_iff.mp ((Bool.not_eq_false _).mp found)
  have apart := disjoint range rangeMem other otherMem
  omega

end CodePoints

theorem wideBlanks_disjoint_alphabetic : wideBlanks.Disjoint alphabetic := by
  decide +kernel

theorem wideBlanks_disjoint_decimalDigits :
    wideBlanks.Disjoint decimalDigits := by
  decide +kernel

theorem wideBlanks_disjoint_otherNumbers :
    wideBlanks.Disjoint otherNumbers := by
  decide +kernel

/-- Below `0x80` the two classes are compared code by code. -/
theorem isNameChar_eq_false_of_narrow_blank
    {c : Char}
    (narrow : c.toNat < 0x80)
    (blank : isBlank c = true) :
    isNameChar c = false := by
  have table : ∀ code < 0x80, isBlank (Char.ofNat code) = true →
      isNameChar (Char.ofNat code) = false := by
    decide
  have decided := table c.toNat narrow
  rw [Char.ofNat_toNat] at decided
  exact decided blank

/-- No character of a name is a blank. -/
theorem isNameChar_eq_false_of_isBlank
    {c : Char}
    (blank : isBlank c = true) :
    isNameChar c = false := by
  by_cases narrow : c.toNat < 0x80
  · exact isNameChar_eq_false_of_narrow_blank narrow blank
  · have wide : wideBlanks.contains c = true := by
      simpa [isBlank, narrow] using blank
    have notAlphabetic :=
      wideBlanks_disjoint_alphabetic.contains_eq_false wide
    have notDigit :=
      wideBlanks_disjoint_decimalDigits.contains_eq_false wide
    have notNumber :=
      wideBlanks_disjoint_otherNumbers.contains_eq_false wide
    have notUnderscore : c ≠ '_' := by
      rintro rfl
      exact narrow (by decide)
    simp [isNameChar, isAlphanumeric, narrow, notAlphabetic, notDigit,
      notNumber, notUnderscore]

theorem isBlank_eq_false_of_isNameChar
    {c : Char}
    (nameChar : isNameChar c = true) :
    isBlank c = false := by
  by_contra blank
  have absent := isNameChar_eq_false_of_isBlank
    ((Bool.not_eq_false _).mp blank)
  rw [nameChar] at absent
  exact absurd absent (by decide)

end Text
end DocLint
