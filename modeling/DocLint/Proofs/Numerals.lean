import DocLint.Proofs.RangeTexts

/-!
# Numbers at the ends of ranges

A number is cut behind its fraction, and what is left over is its exponent.  The
first part is an end of a range, because an end is a run of characters with a
fraction perhaps; an exponent without a fraction in front of it belongs to the
run.
-/

namespace DocLint

open Text

namespace Literal

/-! ## The two parts of a number -/

/-- Characters of numbers, apart from the dot. -/
def isNumeralChar (c : Char) : Bool :=
  isNameChar c || c == '+' || c == '-'

/-- A sign in front of a number, or none. -/
def IsSign (text : List Char) : Prop :=
  text = [] ∨ text = ['+'] ∨ text = ['-']

/-- An exponent with its mark. -/
inductive IsMarkedExponent : List Char → Prop
  | intro {mark : Char} {rest : List Char} :
      mark = 'e' ∨ mark = 'E' → (∀ c ∈ rest, isNumeralChar c = true) →
      IsMarkedExponent (mark :: rest)

/-- A number in two parts.  The second is its exponent, if it also has a
fraction; all else is the first part. -/
inductive IsNumeral : List Char → List Char → Prop
  | whole {run : List Char} :
      run ≠ [] → (∀ c ∈ run, isNumeralChar c = true) → IsNumeral run []
  | fraction {sign digits fraction exponent : List Char} :
      IsSign sign → IsDigits digits → IsDigits fraction →
      (exponent = [] ∨ IsMarkedExponent exponent) →
      IsNumeral (sign ++ digits ++ '.' :: fraction) exponent

theorem isNumeralChar_of_isNameChar
    {c : Char}
    (nameChar : isNameChar c = true) :
    isNumeralChar c = true := by
  rw [isNumeralChar, nameChar]
  rfl

theorem isNumeralChar_of_isSign
    {sign : List Char}
    (isSign : IsSign sign) :
    ∀ c ∈ sign, isNumeralChar c = true := by
  rcases isSign with rfl | rfl | rfl
  · exact List.forall_mem_nil _
  · exact List.forall_mem_singleton.mpr rfl
  · exact List.forall_mem_singleton.mpr rfl

theorem IsDigits.isNameChar
    {digits : List Char}
    (areDigits : IsDigits digits) :
    ∀ c ∈ digits, isNameChar c = true := by
  obtain ⟨isFirst, areMore⟩ := areDigits
  exact List.forall_mem_cons.mpr ⟨isNameChar_of_isDigit isFirst,
    fun c member => isNameChar_of_isDigitOrUnderscore (areMore c member)⟩

theorem exists_isSign (text : List Char) :
    ∃ sign, text = sign ++ dropSign text ∧ IsSign sign := by
  unfold dropSign
  split
  · exact ⟨['+'], rfl, Or.inr (Or.inl rfl)⟩
  · exact ⟨['-'], rfl, Or.inr (Or.inr rfl)⟩
  · exact ⟨[], rfl, Or.inl rfl⟩

/-- Below `0x80` the classes are compared code by code. -/
theorem isNameChar_of_narrow
    {accepts : Char → Bool}
    (table : ∀ code < 0x80, accepts (Char.ofNat code) = true →
      isNameChar (Char.ofNat code) = true)
    {c : Char}
    (narrow : c.toNat < 0x80)
    (accepted : accepts c = true) :
    isNameChar c = true := by
  have decided := table c.toNat narrow
  rw [Char.ofNat_toNat] at decided
  exact decided accepted

theorem isNameChar_of_isHexadecimal
    {c : Char}
    (hexadecimal : isHexadecimal c = true) :
    isNameChar c = true := by
  refine isNameChar_of_narrow (by decide) ?_ hexadecimal
  simp only [isHexadecimal, Char.isDigit, Char.le_def, UInt32.le_iff_toNat_le,
    ge_iff_le, Bool.or_eq_true, Bool.and_eq_true, decide_eq_true_eq,
    beq_iff_eq] at hexadecimal
  rcases hexadecimal with ((digit | lower) | upper) | rfl
  · exact Nat.lt_of_le_of_lt digit.2 (by decide)
  · exact Nat.lt_of_le_of_lt lower.2 (by decide)
  · exact Nat.lt_of_le_of_lt upper.2 (by decide)
  · decide

theorem isNumeralChar_of_isRunOf
    {accepts : Char → Bool}
    (areNameChars : ∀ c, accepts c = true → isNameChar c = true)
    {text : List Char}
    (isRun : isRunOf accepts text = true) :
    ∀ c ∈ text, isNumeralChar c = true := by
  rw [isRunOf, Bool.and_eq_true, List.all_eq_true] at isRun
  exact fun c member =>
    isNumeralChar_of_isNameChar (areNameChars c (isRun.2 c member))

/-- Digits behind the mark of their base. -/
theorem isNumeralChar_of_based
    {mark : Char}
    {digits : List Char}
    (isMark : isNameChar mark = true)
    (areDigits : ∀ c ∈ digits, isNumeralChar c = true) :
    ∀ c ∈ '0' :: mark :: digits, isNumeralChar c = true :=
  List.forall_mem_cons.mpr ⟨by decide,
    List.forall_mem_cons.mpr ⟨isNumeralChar_of_isNameChar isMark, areDigits⟩⟩

theorem isNumeralChar_of_isUnsignedInteger
    {text : List Char}
    (isInteger : isUnsignedInteger text = true) :
    text ≠ [] ∧ ∀ c ∈ text, isNumeralChar c = true := by
  have binary : ∀ c : Char, (c == '0' || c == '1' || c == '_') = true →
      isNameChar c = true := by
    intro c isBinary
    simp only [Bool.or_eq_true, beq_iff_eq] at isBinary
    rcases isBinary with (rfl | rfl) | rfl <;> decide
  have octal : ∀ c : Char,
      (decide ('0' ≤ c) && decide (c ≤ '7') || c == '_') = true →
      isNameChar c = true := by
    intro c isOctal
    refine @isNameChar_of_narrow
      (fun c => decide ('0' ≤ c) && decide (c ≤ '7') || c == '_')
      (by decide) c ?_ isOctal
    simp only [Char.le_def, UInt32.le_iff_toNat_le, Bool.or_eq_true,
      Bool.and_eq_true, decide_eq_true_eq, beq_iff_eq] at isOctal
    rcases isOctal with digit | rfl
    · exact Nat.lt_of_le_of_lt digit.2 (by decide)
    · decide
  unfold isUnsignedInteger at isInteger
  rw [Bool.or_eq_true] at isInteger
  rcases isInteger with isBased | isDecimal
  · split at isBased
    · rename_i mark digits
      refine ⟨List.cons_ne_nil _ _, ?_⟩
      split_ifs at isBased with hexadecimalMark binaryMark octalMark
      · refine isNumeralChar_of_based ?_
          (isNumeralChar_of_isRunOf (fun c => isNameChar_of_isHexadecimal) isBased)
        rcases hexadecimalMark with rfl | rfl <;> decide
      · refine isNumeralChar_of_based ?_ (isNumeralChar_of_isRunOf binary isBased)
        rcases binaryMark with rfl | rfl <;> decide
      · refine isNumeralChar_of_based ?_ (isNumeralChar_of_isRunOf octal isBased)
        rcases octalMark with rfl | rfl <;> decide
    · exact absurd isBased (by decide)
  · obtain ⟨digits, rfl, areDigits⟩ :=
      exists_of_afterDigits? (beq_iff_eq.mp isDecimal)
    rw [List.append_nil]
    refine ⟨?_, fun c member =>
      isNumeralChar_of_isNameChar (areDigits.isNameChar c member)⟩
    cases areDigits with
    | intro _ _ => exact List.cons_ne_nil _ _

theorem isMarkedExponent_of_isExponent
    {text : List Char}
    (isExponent : isExponent text = true) :
    IsMarkedExponent text := by
  cases text with
  | nil => exact absurd isExponent (by decide)
  | cons mark rest =>
      rw [Literal.isExponent, Bool.and_eq_true, Bool.or_eq_true, beq_iff_eq,
        beq_iff_eq] at isExponent
      obtain ⟨isMark, isRun⟩ := isExponent
      obtain ⟨sign, restEq, isSign⟩ := exists_isSign rest
      refine .intro isMark ?_
      rw [restEq]
      exact List.forall_mem_append.mpr ⟨isNumeralChar_of_isSign isSign,
        isNumeralChar_of_isRunOf (fun c => isNameChar_of_isDigit) isRun⟩

theorem isNumeral_of_isInteger
    {text : List Char}
    (integer : isInteger text = true) :
    IsNumeral text [] := by
  obtain ⟨sign, textEq, isSign⟩ := exists_isSign text
  obtain ⟨nonempty, inside⟩ := isNumeralChar_of_isUnsignedInteger integer
  rw [textEq]
  exact .whole (by simp [nonempty])
    (List.forall_mem_append.mpr ⟨isNumeralChar_of_isSign isSign, inside⟩)

theorem exists_isNumeral_of_isFloat
    {text : List Char}
    (float : isFloat text = true) :
    ∃ front exponent, text = front ++ exponent ∧ IsNumeral front exponent := by
  obtain ⟨sign, textEq, isSign⟩ := exists_isSign text
  have whole {digits exponent : List Char} (areDigits : IsDigits digits)
      (isMarked : IsMarkedExponent exponent) :
      IsNumeral (sign ++ (digits ++ exponent)) [] := by
    obtain ⟨isMark, areDigitsOfIt⟩ := isMarked
    refine .whole (by simp) (List.forall_mem_append.mpr
      ⟨isNumeralChar_of_isSign isSign, List.forall_mem_append.mpr
        ⟨fun c member => isNumeralChar_of_isNameChar (areDigits.isNameChar c member),
          List.forall_mem_cons.mpr ⟨?_, areDigitsOfIt⟩⟩⟩)
    rcases isMark with rfl | rfl <;> decide
  unfold isFloat at float
  split at float
  · rename_i rest read
    obtain ⟨digits, digitsEq, areDigits⟩ := exists_of_afterDigits? read
    rw [digitsEq] at textEq
    split at float
    · rename_i readFraction
      obtain ⟨fraction, rfl, isFraction⟩ := exists_of_afterDigits? readFraction
      exact ⟨_, [], by rw [textEq]; simp,
        .fraction isSign areDigits isFraction (Or.inl rfl)⟩
    · rename_i exponent _ readFraction
      obtain ⟨fraction, rfl, isFraction⟩ := exists_of_afterDigits? readFraction
      exact ⟨_, exponent, by rw [textEq]; simp,
        .fraction isSign areDigits isFraction
          (Or.inr (isMarkedExponent_of_isExponent float))⟩
    · exact absurd float (by decide)
  · rename_i exponent _ read
    obtain ⟨digits, digitsEq, areDigits⟩ := exists_of_afterDigits? read
    rw [digitsEq] at textEq
    exact ⟨_, [], by rw [textEq, List.append_nil],
      whole areDigits (isMarkedExponent_of_isExponent float)⟩
  · exact absurd float (by decide)

/-- Whether a text has a dot and the mark of an exponent. -/
def hasFractionAndExponent (text : List Char) : Bool :=
  text.any (· == '.') && text.any fun c => c == 'e' || c == 'E'

theorem any_eq_false
    {accepts isAny : Char → Bool}
    (disjoint : ∀ c, accepts c = true → isAny c = false)
    {text : List Char}
    (inside : ∀ c ∈ text, accepts c = true) :
    text.any isAny = false := by
  rw [List.any_eq_false]
  intro c member
  rw [disjoint c (inside c member)]
  exact Bool.false_ne_true

/-- Blanks are no dots and no marks. -/
theorem hasFractionAndExponent_of_blanks
    {space gap : List Char}
    (allBlank : ∀ c ∈ space ++ gap, isBlank c = true)
    (text : List Char) :
    hasFractionAndExponent (space ++ (text ++ gap)) =
      hasFractionAndExponent text := by
  obtain ⟨spaceBlank, gapBlank⟩ := List.forall_mem_append.mp allBlank
  have noMark : ∀ c, isBlank c = true → (c == 'e' || c == 'E') = false := by
    intro c blank
    rw [beq_eq_false_of_outside blank (by decide),
      beq_eq_false_of_outside blank (by decide), Bool.or_self]
  simp only [hasFractionAndExponent, List.any_append,
    any_eq_false (fun c => isDot_eq_false_of_isBlank) spaceBlank,
    any_eq_false (fun c => isDot_eq_false_of_isBlank) gapBlank,
    any_eq_false noMark spaceBlank, any_eq_false noMark gapBlank,
    Bool.false_or, Bool.or_false]

theorem isDot_eq_false_of_isNumeralChar
    {c : Char}
    (numeralChar : isNumeralChar c = true) :
    (c == '.') = false :=
  beq_eq_false_of_outside numeralChar (by decide)

theorem isBlank_eq_false_of_isNumeralChar
    {c : Char}
    (numeralChar : isNumeralChar c = true) :
    isBlank c = false := by
  rw [isNumeralChar, Bool.or_eq_true, Bool.or_eq_true, beq_iff_eq,
    beq_iff_eq] at numeralChar
  rcases numeralChar with (nameChar | rfl) | rfl
  · exact isBlank_eq_false_of_isNameChar nameChar
  · decide
  · decide

theorem isLastEndChar_of_isNumeralChar
    {c : Char}
    (numeralChar : isNumeralChar c = true) :
    isLastEndChar c = true := by
  have notBlank := isBlank_eq_false_of_isNumeralChar numeralChar
  simp only [isLastEndChar, bne, notBlank,
    @beq_eq_false_of_outside _ _ '.' numeralChar (by decide),
    @beq_eq_false_of_outside _ _ '(' numeralChar (by decide),
    @beq_eq_false_of_outside _ _ ')' numeralChar (by decide)]
  rfl

namespace IsDigits

variable {digits : List Char}

theorem isNumeralChar
    (areDigits : IsDigits digits) :
    ∀ c ∈ digits, isNumeralChar c = true :=
  fun c member => isNumeralChar_of_isNameChar (areDigits.isNameChar c member)

theorem noMark
    (areDigits : IsDigits digits) :
    digits.any (fun c => c == 'e' || c == 'E') = false := by
  have noMark : ∀ c, isDigitOrUnderscore c = true →
      (c == 'e' || c == 'E') = false := by
    intro c digit
    rw [beq_eq_false_of_outside digit (by decide),
      beq_eq_false_of_outside digit (by decide), Bool.or_self]
  obtain ⟨isFirst, areMore⟩ := areDigits
  refine any_eq_false noMark (List.forall_mem_cons.mpr ⟨?_, areMore⟩)
  rw [isDigitOrUnderscore, isFirst, Bool.true_or]

end IsDigits

theorem count_dot_eq_zero
    {text : List Char}
    (inside : ∀ c ∈ text, isNumeralChar c = true) :
    text.count '.' = 0 :=
  List.count_eq_zero.mpr fun member =>
    absurd (inside '.' member) (by decide)

/-- The characters of the sign and the digits of a number. -/
theorem isNumeralChar_of_signed
    {sign digits : List Char}
    (isSign : IsSign sign)
    (areDigits : IsDigits digits) :
    ∀ c ∈ sign ++ digits, isNumeralChar c = true :=
  List.forall_mem_append.mpr
    ⟨isNumeralChar_of_isSign isSign, areDigits.isNumeralChar⟩

theorem isNumeralChar_of_exponent
    {exponent : List Char}
    (isExponent : exponent = [] ∨ IsMarkedExponent exponent) :
    ∀ c ∈ exponent, isNumeralChar c = true := by
  rcases isExponent with rfl | ⟨isMark, inside⟩
  · exact List.forall_mem_nil _
  · refine List.forall_mem_cons.mpr ⟨?_, inside⟩
    rcases isMark with rfl | rfl <;> decide

namespace IsNumeral

variable {front exponent : List Char}

/-- The first part of a number is an end of a range. -/
theorem isEnd
    (isNumeral : IsNumeral front exponent)
    {accepts : Char → Bool}
    (accepted : ∀ c, isNumeralChar c = true → accepts c = true) :
    IsEnd accepts front := by
  cases isNumeral with
  | whole nonempty inside =>
      exact .run nonempty fun c member => accepted c (inside c member)
  | fraction isSign areDigits isFraction _ =>
      refine .fraction ?_ (fun c member => accepted c
        (isNumeralChar_of_signed isSign areDigits c member)) isFraction
      cases areDigits with
      | intro _ _ => simp

/-- The exponent behind a fraction is left over when an end is read. -/
theorem afterEndpoint?_append
    (isNumeral : IsNumeral front exponent)
    {accepts : Char → Bool}
    (accepted : ∀ c, isNumeralChar c = true → accepts c = true)
    (noDot : accepts '.' = false)
    {rest : List Char}
    (stops : StopsEnd accepts rest) :
    afterEndpoint? accepts (front ++ (exponent ++ rest)) =
      some (exponent ++ rest) := by
  have isEnd := isNumeral.isEnd accepted
  cases isNumeral with
  | whole nonempty inside =>
      exact isEnd.afterEndpoint?_append noDot stops
  | fraction isSign areDigits isFraction isExponent =>
      rcases isExponent with rfl | ⟨isMark, _⟩
      · exact isEnd.afterEndpoint?_append noDot stops
      · rw [List.append_assoc]
        refine afterEndpoint?_fraction noDot ?_ (fun c member => accepted c
          (isNumeralChar_of_signed isSign areDigits c member)) isFraction
          (startsOutside_cons ?_ _)
        · cases areDigits with
          | intro _ _ => simp
        · rcases isMark with rfl | rfl <;> decide

/-- What is left over tells whether a number has both a fraction and an
exponent. -/
theorem hasFractionAndExponent_append
    (isNumeral : IsNumeral front exponent) :
    hasFractionAndExponent (front ++ exponent) = !exponent.isEmpty := by
  cases isNumeral with
  | whole nonempty inside =>
      rw [hasFractionAndExponent, List.append_nil,
        any_eq_false (fun c => isDot_eq_false_of_isNumeralChar) inside]
      rfl
  | @fraction sign digits fraction _ isSign areDigits isFraction isExponent =>
      have noSignMark : sign.any (fun c => c == 'e' || c == 'E') = false := by
        rcases isSign with rfl | rfl | rfl <;> decide
      have hasDot : (sign ++ digits ++ '.' :: fraction ++ exponent).any
          (· == '.') = true := by
        simp
      have noMark : (sign ++ digits ++ '.' :: fraction).any
          (fun c => c == 'e' || c == 'E') = false := by
        rw [List.any_append, List.any_append, List.any_cons, noSignMark,
          areDigits.noMark, isFraction.noMark]
        decide
      rw [hasFractionAndExponent, hasDot, List.any_append, noMark,
        Bool.true_and, Bool.false_or]
      rcases isExponent with rfl | ⟨isMark, _⟩
      · rfl
      · rcases isMark with rfl | rfl <;> rfl

theorem notBlank
    (isNumeral : IsNumeral front exponent) :
    ∀ c ∈ front ++ exponent, isBlank c = false := by
  have numeral : ∀ {text : List Char}, (∀ c ∈ text, isNumeralChar c = true) →
      ∀ c ∈ text, isBlank c = false :=
    fun inside c member => isBlank_eq_false_of_isNumeralChar (inside c member)
  cases isNumeral with
  | whole nonempty inside =>
      rw [List.append_nil]
      exact numeral inside
  | fraction isSign areDigits isFraction isExponent =>
      exact List.forall_mem_append.mpr ⟨List.forall_mem_append.mpr
        ⟨numeral (isNumeralChar_of_signed isSign areDigits),
          List.forall_mem_cons.mpr
            ⟨by decide, numeral isFraction.isNumeralChar⟩⟩,
        numeral (isNumeralChar_of_exponent isExponent)⟩

theorem count_dot_le
    (isNumeral : IsNumeral front exponent) :
    (front ++ exponent).count '.' ≤ 1 := by
  cases isNumeral with
  | whole nonempty inside =>
      rw [List.append_nil, count_dot_eq_zero inside]
      exact Nat.zero_le 1
  | fraction isSign areDigits isFraction isExponent =>
      rw [List.count_append, List.count_append, List.count_cons_self,
        count_dot_eq_zero (isNumeralChar_of_signed isSign areDigits),
        count_dot_eq_zero isFraction.isNumeralChar,
        count_dot_eq_zero (isNumeralChar_of_exponent isExponent)]

theorem ne_nil
    (isNumeral : IsNumeral front exponent) :
    front ++ exponent ≠ [] :=
  List.append_ne_nil_of_left_ne_nil (isNumeral.isEnd fun _ => id).ne_nil exponent

theorem exponent_inside
    (isNumeral : IsNumeral front exponent) :
    ∀ c ∈ exponent, isNumeralChar c = true := by
  cases isNumeral with
  | whole nonempty inside => exact List.forall_mem_nil _
  | fraction isSign areDigits isFraction isExponent =>
      exact isNumeralChar_of_exponent isExponent

end IsNumeral

end Literal
end DocLint
