import DocLint.Proofs.CorrectedTypes

/-!
# What is reported is what is corrected

Mismatches are listed from the outside in, as the expression is written.  The
correction works from the inside out, looks at each root again behind its
corrected parts, and returns nothing where it changes nothing.  On every
expression the two agree: there is something to list exactly if there is
something to correct, and then the correction is a different expression.
-/

namespace DocLint
namespace TypeExpr

theorem ownMismatch_eq_nil_iff
    {type : TypeExpr} :
    type.ownMismatch = [] ↔ type.mismatch? = none := by
  simp [ownMismatch]

theorem correctRoot?_eq_none_iff
    {type : TypeExpr} :
    type.correctRoot? = none ↔ type.mismatch? = none := by
  simp [correctRoot?]

mutual

/-- There is nothing to correct exactly if no mismatch is listed. -/
theorem correct?_eq_none_iff :
    (type : TypeExpr) →
    (type.correct? = none ↔ type.mismatches = [])
  | simple name => by
      simp [correct?, mismatches, ownMismatch, mismatch?]
  | generic name arguments => by
      have inner := correctList?_eq_none_iff arguments
      rw [correct?, mismatches, List.append_eq_nil_iff, ← inner,
        ownMismatch_eq_nil_iff]
      cases correctList? arguments with
      | none => simp [correctRoot?_eq_none_iff]
      | some corrected => simp
  | tuple name elements => by
      have inner := correctList?_eq_none_iff elements
      rw [correct?, mismatches, List.append_eq_nil_iff, ← inner,
        ownMismatch_eq_nil_iff]
      cases correctList? elements with
      | none => simp [correctRoot?_eq_none_iff]
      | some corrected => simp
  | mapping name keys values => by
      have keysInner := correctList?_eq_none_iff keys
      have valuesInner := correctList?_eq_none_iff values
      rw [correct?, mismatches, List.append_eq_nil_iff, List.append_eq_nil_iff,
        ← keysInner, ← valuesInner, ownMismatch_eq_nil_iff]
      -- One corrected list is enough, whether it holds keys or values.
      cases correctList? keys with
      | none =>
          cases correctList? values with
          | none => simp [correctRoot?_eq_none_iff]
          | some newValues => simp
      | some newKeys => simp

theorem correctList?_eq_none_iff :
    (types : List TypeExpr) →
    (correctList? types = none ↔ mismatchesOfList types = [])
  | [] => by
      simp [correctList?, mismatchesOfList]
  | type :: rest => by
      have first := correct?_eq_none_iff type
      have others := correctList?_eq_none_iff rest
      rw [correctList?, mismatchesOfList_cons_eq_nil_iff, ← first, ← others]
      cases correct? type with
      | none =>
          cases correctList? rest with
          | none => simp
          | some newRest => simp
      | some newType => simp

end

theorem correct_eq_self_of_mismatches_eq_nil
    {type : TypeExpr}
    (clean : type.mismatches = []) :
    type.correct = type := by
  rw [correct, (correct?_eq_none_iff type).mpr clean]
  rfl

/-- An expression that is its own correction has no mismatch, since no
correction has one. -/
theorem correct_eq_self_iff
    {type : TypeExpr} :
    type.correct = type ↔ type.mismatches = [] := by
  constructor
  · intro same
    rw [← same]
    exact mismatches_correct type
  · exact correct_eq_self_of_mismatches_eq_nil

/-- The correction of an expression has no mismatch.  An expression has a
mismatch exactly if its correction is reported as changed, and exactly if the
correction differs from it.  Correcting twice is correcting once. -/
theorem correction_agrees_mismatches (type : TypeExpr) :
    type.correct.mismatches = [] ∧
      (type.mismatches ≠ [] ↔ type.correct?.isSome = true) ∧
      (type.correct?.isSome = true ↔ type.correct ≠ type) ∧
      type.correct.correct = type.correct := by
  have clean := mismatches_correct type
  have changed : type.mismatches ≠ [] ↔ type.correct?.isSome = true := by
    rw [Option.isSome_iff_ne_none, Ne, Ne, correct?_eq_none_iff]
  refine ⟨clean, changed, ?_, correct_eq_self_of_mismatches_eq_nil clean⟩
  rw [← changed, Ne, Ne, correct_eq_self_iff]

end TypeExpr
end DocLint
