import Mathlib.Data.List.Infix
import DocLint.Proofs.RangeTexts

/-!
# Quoted texts

A text between two of the same quotes is a string if the quote does not stand
inside.  With an escaped quote inside it is a string as well, unless the whole
of it is also written as a range: the quotes at both ends then belong to the
ends of that range, which are `"a` and `\"b"` in `"a..\"b"`.
-/

namespace DocLint

open Text

namespace Literal

/-- A text that can stand between quotes: the quote and the backslash stand in
it only behind a backslash that escapes them. -/
inductive IsEscaped (quote : Char) : List Char → Prop
  | nil : IsEscaped quote []
  | plain {c : Char} {rest : List Char} :
      c ≠ quote → c ≠ '\\' → IsEscaped quote rest → IsEscaped quote (c :: rest)
  | escape {c : Char} {rest : List Char} :
      IsEscaped quote rest → IsEscaped quote ('\\' :: c :: rest)

/-- A quote inside is an escaped quote. -/
theorem IsEscaped.mem_iff
    {quote : Char}
    {body : List Char}
    (escaped : IsEscaped quote body)
    (notBackslash : quote ≠ '\\') :
    quote ∈ body ↔ ['\\', quote] <:+: body := by
  constructor
  · intro inside
    induction escaped with
    | nil => exact absurd inside List.not_mem_nil
    | plain different _ _ hypothesis =>
        rcases List.mem_cons.mp inside with isFirst | later
        · exact absurd isFirst.symm different
        · exact (hypothesis later).trans (List.suffix_cons _ _).isInfix
    | escape _ hypothesis =>
        rename_i c rest _
        rcases List.mem_cons.mp inside with isBackslash | later
        · exact absurd isBackslash notBackslash
        · rcases List.mem_cons.mp later with rfl | later
          · exact (List.prefix_append ['\\', quote] rest).isInfix
          · exact (hypothesis later).trans
              (List.suffix_append ['\\', c] rest).isInfix
  · intro escapedQuote
    exact escapedQuote.subset (by simp)

/-- A text between two quotes. -/
def quoted (quote : Char) (body : List Char) : List Char :=
  quote :: (body ++ [quote])

theorem isPlainString_quoted
    {quote : Char}
    (isQuote : quote = '"' ∨ quote = '\'')
    (body : List Char) :
    isPlainString (quoted quote body) = true ↔ quote ∉ body := by
  have isOne : (quote == '"' || quote == '\'') = true := by simpa using isQuote
  rw [quoted, isPlainString, isOne, List.getLast?_concat, List.dropLast_concat]
  simp only [beq_self_eq_true, Bool.and_true, Bool.true_and, List.all_eq_true,
    bne_iff_ne]
  exact ⟨fun different inside => different quote inside rfl,
    fun outside c inside => fun same => outside (same ▸ inside)⟩

instance (text : List Char) : Decidable (IsRangeText text) :=
  decidable_of_iff _ isRange_iff

/-- A quoted text is a string, unless a quote stands inside and all of it is
written as a range. -/
theorem classify_of_quotes
    {quote : Char}
    (isQuote : quote = '"' ∨ quote = '\'')
    (body : List Char) :
    classify (String.ofList (quoted quote body)) =
      if quote ∈ body ∧ IsRangeText (quoted quote body) then range
      else string := by
  have notBlank : isBlank quote = false := by
    rcases isQuote with rfl | rfl <;> decide
  have trimmed : trim (String.ofList (quoted quote body)).toList =
      quoted quote body := by
    rw [String.toList_ofList]
    refine trim_eq_self (startsOutside_cons notBlank _) ?_
    rw [quoted, List.reverse_cons, List.reverse_append]
    exact startsOutside_cons notBlank _
  -- No form that is tried before strings and ranges starts with a quote.
  have tried : classify (String.ofList (quoted quote body)) =
      if isPlainString (quoted quote body) then string
      else if isRange (quoted quote body) then range
      else string := by
    unfold classify
    rw [trimmed]
    rcases isQuote with rfl | rfl <;> rfl
  rw [tried]
  by_cases inside : quote ∈ body
  · have notPlain : ¬ isPlainString (quoted quote body) = true := by
      rw [isPlainString_quoted isQuote]
      exact not_not_intro inside
    rw [if_neg notPlain]
    exact if_congr (isRange_iff.trans (and_iff_right inside).symm) rfl rfl
  · rw [if_pos ((isPlainString_quoted isQuote body).mpr inside),
      if_neg (fun both => inside both.1)]

/-- A quoted text is a string whatever it contains, unless an escaped quote
stands in it and all of it is written as a range. -/
theorem classify_quoted
    {quote : Char}
    (isQuote : quote = '"' ∨ quote = '\'')
    {body : List Char}
    (escaped : IsEscaped quote body) :
    classify (String.ofList (quoted quote body)) =
      if ['\\', quote] <:+: body ∧ IsRangeText (quoted quote body) then range
      else string := by
  have notBackslash : quote ≠ '\\' := by
    rcases isQuote with rfl | rfl <;> decide
  rw [classify_of_quotes isQuote body]
  exact if_congr (and_congr_left' (escaped.mem_iff notBackslash)) rfl rfl

/-- Dots, a bracket and colons leave `"..[::"` a string, and so do an escaped
quote and dots `'\'..('`, because a range does not end with a parenthesis and a
quote. -/
theorem classify_quoted_dots :
    (IsEscaped '"' "..[::".toList ∧
        classify (String.ofList (quoted '"' "..[::".toList)) = string) ∧
      (IsEscaped '\'' ['\\', '\'', '.', '.', '('] ∧
        classify (String.ofList
          (quoted '\'' ['\\', '\'', '.', '.', '('])) = string) := by
  have dots : IsEscaped '"' "..[::".toList :=
    .plain (by decide) (by decide) (.plain (by decide) (by decide)
      (.plain (by decide) (by decide) (.plain (by decide) (by decide)
        (.plain (by decide) (by decide) .nil))))
  have escaped : IsEscaped '\'' ['\\', '\'', '.', '.', '('] :=
    .escape (.plain (by decide) (by decide) (.plain (by decide) (by decide)
      (.plain (by decide) (by decide) .nil)))
  refine ⟨⟨dots, ?_⟩, escaped, ?_⟩
  · rw [classify_quoted (Or.inl rfl) dots]
    exact if_neg (by decide +kernel)
  · rw [classify_quoted (Or.inr rfl) escaped]
    exact if_neg (by decide +kernel)

/-- `"a..\""` stands between quotes with its inner quote escaped, and is taken
for a range. -/
theorem classify_quoted_range :
    classify "\"a..\\\"\"" = range ∧
      ¬ ∀ (quote : Char) (body : List Char), quote = '"' ∨ quote = '\'' →
        IsEscaped quote body →
        classify (String.ofList (quoted quote body)) = string := by
  have taken : classify "\"a..\\\"\"" = range := by decide +kernel
  refine ⟨taken, fun isString => ?_⟩
  have escaped : IsEscaped '"' ['a', '.', '.', '\\', '"'] :=
    .plain (by decide) (by decide) (.plain (by decide) (by decide)
      (.plain (by decide) (by decide) (.escape .nil)))
  exact absurd ((isString '"' _ (Or.inl rfl) escaped).symm.trans taken) (by decide)

end Literal
end DocLint
