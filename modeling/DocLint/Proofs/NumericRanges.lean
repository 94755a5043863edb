import DocLint.Proofs.Numerals

/-!
# Ranges of numbers

A range between two numbers is classified as a range, unless one of the numbers
has both a fraction and an exponent: `1.5`, `1e3` and `-0x1F` are ends of ranges
and `1.5e3` is not, so that its exponent is left over in front of the dots or
behind the range.
-/

namespace DocLint

open Text

namespace Literal

/-! ## Numbers between blanks -/

/-- What stands on one side of the dots: a number with blanks around it, or
nothing but blanks.  It is told whether something is left over of the number. -/
inductive IsSide : Bool → List Char → Prop
  | blank {blanks : List Char} :
      (∀ c ∈ blanks, isBlank c = true) → IsSide false blanks
  | number {space front exponent gap : List Char} :
      (∀ c ∈ space, isBlank c = true) → IsNumeral front exponent →
      (∀ c ∈ gap, isBlank c = true) →
      IsSide (!exponent.isEmpty) (space ++ (front ++ exponent ++ gap))

namespace IsSide

variable {isLong : Bool}
variable {side : List Char}

theorem append_blank
    (isSide : IsSide isLong side)
    {blanks : List Char}
    (allBlank : ∀ c ∈ blanks, isBlank c = true) :
    IsSide isLong (side ++ blanks) := by
  cases isSide with
  | blank sideBlank =>
      exact .blank (List.forall_mem_append.mpr ⟨sideBlank, allBlank⟩)
  | number spaceBlank isNumeral gapBlank =>
      rw [List.append_assoc, List.append_assoc]
      exact .number spaceBlank isNumeral
        (List.forall_mem_append.mpr ⟨gapBlank, allBlank⟩)

theorem blank_append
    (isSide : IsSide isLong side)
    {blanks : List Char}
    (allBlank : ∀ c ∈ blanks, isBlank c = true) :
    IsSide isLong (blanks ++ side) := by
  cases isSide with
  | blank sideBlank =>
      exact .blank (List.forall_mem_append.mpr ⟨allBlank, sideBlank⟩)
  | number spaceBlank isNumeral gapBlank =>
      rw [← List.append_assoc]
      exact .number (List.forall_mem_append.mpr ⟨allBlank, spaceBlank⟩)
        isNumeral gapBlank

theorem trimStart
    (isSide : IsSide isLong side) :
    IsSide isLong (trimStart side) := by
  cases isSide with
  | blank sideBlank =>
      rw [Text.trimStart, List.dropWhile_eq_nil_iff.mpr sideBlank]
      exact .blank (List.forall_mem_nil _)
  | number spaceBlank isNumeral gapBlank =>
      rw [Text.trimStart, dropWhile_append spaceBlank
        (startsOutside_append_of_ne_nil isNumeral.ne_nil isNumeral.notBlank _)]
      exact .number (List.forall_mem_nil _) isNumeral gapBlank

theorem trimEnd
    (isSide : IsSide isLong side) :
    IsSide isLong (trimEnd side) := by
  cases isSide with
  | blank sideBlank =>
      rw [trimEnd_of_blank sideBlank]
      exact .blank (List.forall_mem_nil _)
  | @number space front exponent gap spaceBlank isNumeral gapBlank =>
      have notBlank : StartsOutside isBlank
          (space ++ (front ++ exponent)).reverse := by
        rw [List.reverse_append]
        exact startsOutside_append_of_ne_nil
          (List.reverse_ne_nil_iff.mpr isNumeral.ne_nil)
          (fun c member => isNumeral.notBlank c (List.mem_reverse.mp member)) _
      rw [← List.append_assoc, trimEnd_append notBlank,
        trimEnd_of_blank gapBlank, List.append_assoc]
      exact .number spaceBlank isNumeral (List.forall_mem_nil _)

/-- A side starts with a blank or with a character of a number. -/
theorem startsOutside
    (isSide : IsSide isLong side)
    {inClass : Char → Bool}
    (noBlank : ∀ c, isBlank c = true → inClass c = false)
    (noNumeral : ∀ c, isNumeralChar c = true → inClass c = false)
    {rest : List Char}
    (apart : StartsOutside inClass rest) :
    StartsOutside inClass (side ++ rest) := by
  cases isSide with
  | blank sideBlank => exact startsOutside_blanks sideBlank noBlank apart
  | number spaceBlank isNumeral gapBlank =>
      rw [List.append_assoc, List.append_assoc, List.append_assoc]
      exact startsOutside_blanks spaceBlank noBlank
        ((isNumeral.isEnd fun c => id).startsOutside noNumeral _)

/-- In front of the dots, a side is read to its end if nothing is left over. -/
theorem isRangeBody_append
    (isSide : IsSide isLong side)
    {dots rest : List Char}
    (isDots : IsDots dots)
    (noDot : StartsOutside (· == '.') rest) :
    isRangeBody (side ++ (dots ++ rest)) = (!isLong && isRangeTail rest) := by
  cases isSide with
  | blank sideBlank =>
      rw [isRangeBody_of_noEnd sideBlank isDots, isDotted_append isDots noDot]
      rfl
  | @number space front exponent gap spaceBlank isNumeral gapBlank =>
      have read := isNumeral.afterEndpoint?_append
        (fun c numeralChar => isFirstEndChar_of_isLastEndChar
          (isLastEndChar_of_isNumeralChar numeralChar))
        (by decide) (stopsEnd_dots gapBlank isDots rest)
      have notBlank := startsOutside_append_of_ne_nil isNumeral.ne_nil
        isNumeral.notBlank (gap ++ (dots ++ rest))
      rw [List.append_assoc] at notBlank
      rw [List.append_assoc, List.append_assoc, List.append_assoc,
        Literal.isRangeBody_append spaceBlank notBlank read]
      cases exponent with
      | nil =>
          have trimmed : Text.trimStart (gap ++ (dots ++ rest)) = dots ++ rest :=
            dropWhile_append gapBlank (isDots.startsOutside (by decide) rest)
          rw [List.nil_append, trimmed, isDotted_append isDots noDot]
          rfl
      | cons mark more =>
          have numeralChar := isNumeral.exponent_inside mark List.mem_cons_self
          rw [List.cons_append, Text.trimStart, List.dropWhile_cons_of_neg
            (by simp [isBlank_eq_false_of_isNumeralChar numeralChar])]
          exact isDotted_eq_false (@startsOutside_cons (· == '.') mark
            (isDot_eq_false_of_isNumeralChar numeralChar) _)

/-- Behind the dots, a side is read to its end if nothing is left over. -/
theorem isRangeTail_append
    (isSide : IsSide isLong side)
    {closing : List Char}
    (isClosing : closing = [] ∨ closing = [')']) :
    isRangeTail (side ++ closing) = !isLong := by
  cases isSide with
  | blank sideBlank => exact isRangeTail_of_noEnd sideBlank isClosing
  | @number space front exponent gap spaceBlank isNumeral gapBlank =>
      have read := isNumeral.afterEndpoint?_append
        (fun c => isLastEndChar_of_isNumeralChar)
        (by decide) (stopsEnd_closing gapBlank isClosing)
      have notBlank := startsOutside_append_of_ne_nil isNumeral.ne_nil
        isNumeral.notBlank (gap ++ closing)
      rw [List.append_assoc] at notBlank
      rw [List.append_assoc, List.append_assoc, List.append_assoc,
        Literal.isRangeTail_append spaceBlank notBlank read]
      cases exponent with
      | nil =>
          rw [List.nil_append, trimStart_closing gapBlank isClosing]
          rcases isClosing with rfl | rfl <;> rfl
      | cons mark more =>
          have numeralChar := isNumeral.exponent_inside mark List.mem_cons_self
          have notClosing : mark ≠ ')' := by
            rintro rfl
            exact absurd numeralChar (by decide)
          rw [List.cons_append, Text.trimStart, List.dropWhile_cons_of_neg
            (by simp [isBlank_eq_false_of_isNumeralChar numeralChar])]
          simp [notClosing]

end IsSide

/-! ## Classification -/

theorem ite_ne
    {condition : Prop}
    [Decidable condition]
    {left right kind : Literal}
    (leftNe : left ≠ kind)
    (rightNe : right ≠ kind) :
    (if condition then left else right) ≠ kind := by
  split
  · exact leftNe
  · exact rightNe

/-- What is no integer and no float is not classified as one. -/
theorem isInteger_or_isFloat_of_classify
    {source : String}
    (isNumber : classify source = .integer ∨ classify source = .float) :
    isInteger (trim source.toList) = true ∨ isFloat (trim source.toList) = true := by
  by_contra neither
  obtain ⟨notInteger, notFloat⟩ := not_or.mp neither
  have noKind : ∀ kind : Literal, kind = .integer ∨ kind = .float →
      classify source ≠ kind := by
    rintro kind isKind
    have others : ∀ form : Literal, form ≠ .integer → form ≠ .float →
        form ≠ kind := by
      rintro form notInteger notFloat rfl
      exact isKind.elim notInteger notFloat
    unfold classify
    dsimp only
    rw [if_neg notInteger, if_neg notFloat]
    -- None of the other forms is classified as a number.
    iterate 9 refine ite_ne (others _ (by decide) (by decide)) ?_
    exact others _ (by decide) (by decide)
  rcases isNumber with integer | float
  · exact noKind _ (Or.inl rfl) integer
  · exact noKind _ (Or.inr rfl) float

/-- A number is a side of a range. -/
theorem isSide_of_classify
    {number : String}
    (isNumber : classify number = .integer ∨ classify number = .float) :
    IsSide (hasFractionAndExponent number.toList) number.toList := by
  obtain ⟨space, gap, textEq, allBlank⟩ := exists_append_trim number.toList
  obtain ⟨front, exponent, trimmed, isNumeral⟩ :
      ∃ front exponent, trim number.toList = front ++ exponent ∧
        IsNumeral front exponent := by
    rcases isInteger_or_isFloat_of_classify isNumber with integer | float
    · exact ⟨_, [], (List.append_nil _).symm, isNumeral_of_isInteger integer⟩
    · exact exists_isNumeral_of_isFloat float
  rw [trimmed] at textEq
  have sameMarks := hasFractionAndExponent_of_blanks allBlank (front ++ exponent)
  rw [textEq, sameMarks, isNumeral.hasFractionAndExponent_append]
  obtain ⟨spaceBlank, gapBlank⟩ := List.forall_mem_append.mp allBlank
  exact .number spaceBlank isNumeral gapBlank

theorem isSide_of_numeric
    {number : Option String}
    (numeric : ∀ given ∈ number.toList,
      classify given = .integer ∨ classify given = .float) :
    IsSide (number.any fun given => hasFractionAndExponent given.toList)
      (number.getD "").toList := by
  cases number with
  | none => exact .blank (List.forall_mem_nil _)
  | some given => exact isSide_of_classify (numeric given (by simp))

/-- The characters that a literal other than a number or a range starts with. -/
def literalOpenings : List Char :=
  [':', '%', '[', '\x7b', '/', '"', '\'', '<']

/-- Whether a literal other than a number or a range starts with a character. -/
def opensLiteral (c : Char) : Bool :=
  literalOpenings.contains c

theorem opensLiteral_eq_false
    {accepts : Char → Bool}
    (noOpening : literalOpenings.any accepts = false)
    {c : Char}
    (accepted : accepts c = true) :
    opensLiteral c = false := by
  rw [opensLiteral, Bool.eq_false_iff, Ne, List.contains_iff_mem]
  exact fun member => List.any_eq_false.mp noOpening c member accepted

theorem startsWith_eq_false
    {text : List Char}
    (apart : StartsOutside opensLiteral text)
    {start : String}
    (opens : start.toList.head?.any opensLiteral = true) :
    startsWith start text = false := by
  rw [startsWith]
  cases startEq : start.toList with
  | nil =>
      rw [startEq] at opens
      exact absurd opens (by decide)
  | cons first more =>
      rw [startEq] at opens
      cases text with
      | nil => rfl
      | cons c rest =>
          have different : (first == c) = false :=
            beq_eq_false_of_outside opens (apart c rfl)
          rw [List.isPrefixOf_cons_cons, different, Bool.false_and]

theorem isPlainString_eq_false
    {text : List Char}
    (apart : StartsOutside opensLiteral text) :
    isPlainString text = false := by
  cases text with
  | nil => rfl
  | cons quote rest =>
      have noQuote : (quote == '"' || quote == '\'') = false := by
        have outside := apart quote rfl
        rw [Bool.or_eq_false_iff, beq_eq_false_iff_ne, beq_eq_false_iff_ne]
        constructor
        · rintro rfl
          exact absurd outside (by decide)
        · rintro rfl
          exact absurd outside (by decide)
      rw [isPlainString, noQuote]
      rfl

/-- With two dots or more, and no other literal that it starts like, a text is a
range or no literal. -/
theorem classify_of_dots
    {source : String}
    (dots : 2 ≤ (trim source.toList).count '.')
    (apart : StartsOutside opensLiteral (trim source.toList)) :
    classify source =
      if isRange (trim source.toList) then .range else .other := by
  have notWord : ∀ word : List Char, word.count '.' ≤ 1 →
      trim source.toList ≠ word := by
    rintro word few rfl
    exact absurd few (Nat.not_le.mpr dots)
  have notInteger : ¬ isInteger (trim source.toList) = true := by
    intro integer
    have few := (isNumeral_of_isInteger integer).count_dot_le
    rw [List.append_nil] at few
    exact absurd few (Nat.not_le.mpr dots)
  have notFloat : ¬ isFloat (trim source.toList) = true := by
    intro float
    obtain ⟨front, exponent, textEq, isNumeral⟩ :=
      exists_isNumeral_of_isFloat float
    have few := isNumeral.count_dot_le
    rw [← textEq] at few
    exact absurd few (Nat.not_le.mpr dots)
  have notPlain : ¬ isPlainString (trim source.toList) = true := by
    rw [isPlainString_eq_false apart]
    exact Bool.false_ne_true
  unfold classify
  dsimp only
  rw [if_neg (notWord _ (by decide)),
    if_neg (not_or.mpr ⟨notWord _ (by decide), notWord _ (by decide)⟩),
    if_neg notInteger, if_neg notFloat, if_neg notPlain]
  have noStart (start : String) (opens : start.toList.head?.any opensLiteral = true) :
      startsWith start (trim source.toList) = false :=
    startsWith_eq_false apart opens
  simp only [noStart ":" (by decide), noStart "%s" (by decide),
    noStart "[" (by decide), noStart "%w" (by decide), noStart "%i" (by decide),
    noStart "\x7b" (by decide), noStart "/" (by decide), noStart "%r" (by decide),
    noStart "\"" (by decide), noStart "'" (by decide), noStart "%q" (by decide),
    noStart "%Q" (by decide), noStart "<<" (by decide), Bool.false_and,
    Bool.or_self, Bool.false_eq_true, if_false]

/-! ## Ranges -/

/-- An end without its first character is an end again, or nothing, or a
fraction. -/
theorem IsEnd.tail_cases
    {accepts : Char → Bool}
    {c : Char}
    {more : List Char}
    (isEnd : IsEnd accepts (c :: more)) :
    (more = [] ∨ IsEnd accepts more) ∨
      ∃ digits, more = '.' :: digits ∧ IsDigits digits := by
  generalize endpointEq : c :: more = endpoint at isEnd
  cases isEnd with
  | run nonempty inside =>
      subst endpointEq
      cases more with
      | nil => exact Or.inl (Or.inl rfl)
      | cons next others =>
          exact Or.inl (Or.inr
            (.run (List.cons_ne_nil _ _) (List.forall_mem_cons.mp inside).2))
  | @fraction run digits nonempty inside areDigits =>
      cases run with
      | nil => exact absurd rfl nonempty
      | cons first others =>
          obtain ⟨rfl, rfl⟩ := List.cons.inj endpointEq
          cases others with
          | nil => exact Or.inr ⟨digits, rfl, areDigits⟩
          | cons next run =>
              exact Or.inl (Or.inr (.fraction (List.cons_ne_nil _ _)
                (List.forall_mem_cons.mp inside).2 areDigits))

/-- Without a parenthesis in front, a text that does not start with a fraction
is still written as a range. -/
theorem isRangeBody_of_opened
    {text : List Char}
    (noFraction : NoFraction text)
    (isBody : IsRangeBody ('(' :: text)) :
    IsRangeBody text := by
  generalize openedEq : '(' :: text = opened at isBody
  obtain ⟨spaceBlank, isFirst, gapBlank, isDots, isRest⟩ := isBody
  rename_i space first gap dots rest
  obtain rfl : space = [] := by
    cases space with
    | nil => rfl
    | cons c more =>
        obtain rfl : '(' = c := (List.cons.inj openedEq).1
        exact absurd (spaceBlank _ List.mem_cons_self) (by decide)
  rw [List.nil_append] at openedEq
  rcases isFirst with rfl | isEnd
  · -- Neither a blank nor a dot is a parenthesis.
    have outside := (stopsEnd_dots gapBlank isDots rest).noRun
    rw [← openedEq.trans (List.nil_append _)] at outside
    exact absurd (outside '(' rfl) (by decide)
  · cases first with
    | nil => exact absurd rfl isEnd.ne_nil
    | cons c more =>
        obtain ⟨rfl, rfl⟩ := List.cons.inj openedEq
        rcases isEnd.tail_cases with isMore | ⟨digits, rfl, areDigits⟩
        · exact .intro (List.forall_mem_nil _) isMore gapBlank isDots isRest
        · have noDigits := noFraction _ rfl
          obtain ⟨isFirst, _⟩ := areDigits
          rw [List.append_eq, List.cons_append, afterDigits?,
            if_pos isFirst] at noDigits
          exact absurd noDigits (by simp)

/-- A parenthesis in front is left out, unless a fraction stands right behind
it. -/
theorem isRange_opened
    {text : List Char}
    (noFraction : NoFraction text) :
    isRange ('(' :: text) = isRangeBody text := by
  rw [isRange, Bool.eq_iff_iff, Bool.or_eq_true, isRangeBody_iff, isRangeBody_iff]
  exact ⟨fun either => either.elim (isRangeBody_of_opened noFraction) id, Or.inr⟩

theorem isRange_of_startsOutside
    {text : List Char}
    (notOpened : StartsOutside (· == '(') text) :
    isRange text = isRangeBody text := by
  unfold isRange
  split
  · exact absurd (notOpened '(' rfl) (by simp)
  · exact Bool.or_false _

theorem IsDots.reverse_eq
    {dots : List Char}
    (isDots : IsDots dots) :
    dots.reverse = dots := by
  rcases isDots with rfl | rfl <;> rfl

theorem IsDots.two_le_count
    {dots : List Char}
    (isDots : IsDots dots) :
    2 ≤ dots.count '.' := by
  rcases isDots with rfl | rfl <;> decide

section Sides

variable {isLong isLong' : Bool}
variable {side side' dots : List Char}
variable (isSide : IsSide isLong side)
variable (isSide' : IsSide isLong' side')
variable (isDots : IsDots dots)

include isSide isSide' isDots

theorem isRangeBody_of_sides
    {closing : List Char}
    (isClosing : closing = [] ∨ closing = [')']) :
    isRangeBody (side ++ (dots ++ (side' ++ closing))) =
      (!isLong && !isLong') := by
  have closingApart : StartsOutside (· == '.') closing :=
    startsOutside_closing isClosing (by decide)
  rw [isSide.isRangeBody_append isDots (isSide'.startsOutside
      (fun c => isDot_eq_false_of_isBlank)
      (fun c => isDot_eq_false_of_isNumeralChar) closingApart),
    isSide'.isRangeTail_append isClosing]

theorem classify_of_sides
    {source : String}
    (sourceEq : source.toList = side ++ (dots ++ side')) :
    classify source = if isLong || isLong' then .other else .range := by
  have trimmed : trim source.toList =
      trimStart side ++ (dots ++ trimEnd side') := by
    have dotsBehind : StartsOutside isBlank (trimStart side ++ dots).reverse := by
      rw [List.reverse_append, isDots.reverse_eq]
      exact isDots.startsOutside (by decide) _
    rw [sourceEq, trim,
      trimStart_append side (isDots.startsOutside (by decide) side'),
      ← List.append_assoc, trimEnd_append dotsBehind, List.append_assoc]
  have outside {inClass : Char → Bool}
      (noBlank : ∀ c, isBlank c = true → inClass c = false)
      (noNumeral : ∀ c, isNumeralChar c = true → inClass c = false)
      (noDot : inClass '.' = false) :
      StartsOutside inClass (trim source.toList) := by
    rw [trimmed]
    exact isSide.trimStart.startsOutside noBlank noNumeral
      (isDots.startsOutside noDot _)
  have dotted : 2 ≤ (trim source.toList).count '.' := by
    rw [trimmed, List.count_append, List.count_append]
    have enough := isDots.two_le_count
    omega
  have notOpened : StartsOutside (· == '(') (trim source.toList) :=
    outside (fun c blank => beq_eq_false_of_outside blank (by decide))
      (fun c numeralChar => beq_eq_false_of_outside numeralChar (by decide))
      (by decide)
  have bare := isRangeBody_of_sides isSide.trimStart isSide'.trimEnd isDots
    (Or.inl rfl)
  rw [List.append_nil, ← trimmed] at bare
  rw [classify_of_dots dotted (outside
      (fun c => opensLiteral_eq_false (by decide))
      (fun c => opensLiteral_eq_false (by decide)) (by decide)),
    isRange_of_startsOutside notOpened, bare]
  cases isLong <;> cases isLong' <;> rfl

theorem classify_of_enclosed_sides
    {source : String}
    (sourceEq : source.toList = '(' :: (side ++ (dots ++ (side' ++ [')'])))) :
    classify source = if isLong || isLong' then .other else .range := by
  have trimmed : trim source.toList = source.toList := by
    have shape : source.toList =
        '(' :: (side ++ (dots ++ side')) ++ [')'] := by
      rw [sourceEq]
      simp
    refine trim_eq_self ?_ ?_
    · rw [sourceEq]
      exact startsOutside_cons (by decide) _
    · rw [shape, List.reverse_append]
      exact startsOutside_cons (by decide) _
  have dotted : 2 ≤ (trim source.toList).count '.' := by
    rw [trimmed, sourceEq, List.count_cons, List.count_append, List.count_append]
    have enough := isDots.two_le_count
    omega
  have noFraction : NoFraction (side ++ (dots ++ (side' ++ [')']))) := by
    have noDot : StartsOutside (· == '.') (side ++ []) :=
      isSide.startsOutside (fun c => isDot_eq_false_of_isBlank)
        (fun c => isDot_eq_false_of_isNumeralChar) (by rintro c ⟨⟩)
    cases side with
    | nil => exact isDots.noFraction _
    | cons c more =>
        exact noFraction_of_startsOutside
          (@startsOutside_cons (· == '.') c (noDot c rfl) _)
  have bare := isRangeBody_of_sides isSide isSide' isDots (Or.inr rfl)
  have apart : StartsOutside opensLiteral (trim source.toList) := by
    rw [trimmed, sourceEq]
    exact startsOutside_cons (by decide) _
  rw [classify_of_dots dotted apart, trimmed, sourceEq,
    isRange_opened noFraction, bare]
  cases isLong <;> cases isLong' <;> rfl

end Sides

end Literal

/-- A range that is written between numbers. -/
structure NumericRange where
  first : Option String
  last : Option String
  /-- Whether it is written with three dots. -/
  isExclusive : Bool
  /-- What stands between the first number and the dots. -/
  gap : String
  /-- What stands between the dots and the last number. -/
  space : String
  isEnclosed : Bool
  numeric : ∀ number ∈ first.toList ++ last.toList,
    Literal.classify number = .integer ∨ Literal.classify number = .float
  blank : ∀ c ∈ gap.toList ++ space.toList, isBlank c = true

namespace NumericRange

/-- The numbers of a range. -/
def numbers (range : NumericRange) : List String :=
  range.first.toList ++ range.last.toList

/-- The text of a range. -/
def text (range : NumericRange) : String :=
  let dots := if range.isExclusive then "..." else ".."
  let inner := range.first.getD "" ++ range.gap ++ dots ++ range.space ++
    range.last.getD ""
  if range.isEnclosed then "(" ++ inner ++ ")" else inner

/-- A range between numbers is classified as a range, unless one of the numbers
has both a fraction and an exponent: then it is no literal. -/
theorem classify_text (range : NumericRange) :
    Literal.classify range.text =
      if range.numbers.any fun number =>
          Literal.hasFractionAndExponent number.toList
      then .other else .range := by
  obtain ⟨first, last, isExclusive, gap, space, isEnclosed, numeric, blank⟩ := range
  obtain ⟨numericFirst, numericLast⟩ := List.forall_mem_append.mp numeric
  obtain ⟨gapBlank, spaceBlank⟩ := List.forall_mem_append.mp blank
  have side := (Literal.isSide_of_numeric numericFirst).append_blank gapBlank
  have side' := (Literal.isSide_of_numeric numericLast).blank_append spaceBlank
  have isDots : Literal.IsDots (if isExclusive then "..." else "..").toList := by
    cases isExclusive
    · exact Or.inl rfl
    · exact Or.inr rfl
  have anyOf : (first.toList ++ last.toList).any
      (fun number => Literal.hasFractionAndExponent number.toList) =
      (first.any (fun number => Literal.hasFractionAndExponent number.toList) ||
        last.any fun number => Literal.hasFractionAndExponent number.toList) := by
    cases first <;> cases last <;> simp
  unfold numbers
  dsimp only
  rw [anyOf]
  cases isEnclosed with
  | false =>
      refine Literal.classify_of_sides side side' isDots ?_
      simp [text]
  | true =>
      refine Literal.classify_of_enclosed_sides side side' isDots ?_
      simp [text]

theorem classify_text_enclosed :
    ∃ range : NumericRange, range.text = "(1e3 ... -0x1F)" ∧
      Literal.classify range.text = .range := by
  refine ⟨⟨some "1e3", some "-0x1F", true, " ", " ", true, ?_, ?_⟩, rfl, ?_⟩
  · decide +kernel
  · exact List.all_eq_true.mp (by decide)
  · rw [classify_text]
    exact if_neg (by decide)

/-- `1.5e3` and `2` are numbers, and what is written as a range between them is
not taken for one. -/
theorem classify_text_exponent :
    Literal.classify "1.5e3" = .float ∧ Literal.classify "2" = .integer ∧
      Literal.classify "1.5e3..2" = .other ∧
      ¬ ∀ range : NumericRange, range.numbers ≠ [] →
        Literal.classify range.text = .range := by
  have isFloat : Literal.classify "1.5e3" = .float := by decide +kernel
  have isInteger : Literal.classify "2" = .integer := by decide +kernel
  have isOther : Literal.classify "1.5e3..2" = .other := by decide +kernel
  refine ⟨isFloat, isInteger, isOther, fun isRange => ?_⟩
  let range : NumericRange :=
    { first := some "1.5e3"
      last := some "2"
      isExclusive := false
      gap := ""
      space := ""
      isEnclosed := false
      numeric := by decide +kernel
      blank := List.all_eq_true.mp (by decide) }
  have taken := isRange range (by decide)
  exact absurd (isOther.symm.trans taken) (by decide)

end NumericRange
end DocLint
