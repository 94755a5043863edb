import DocLint.Literal
import DocLint.Proofs.CharClass
import DocLint.Proofs.Words

/-!
# Texts written as ranges

A range is dots between two ends, either of which may be missing.  An end is a
run of characters with a fraction perhaps; blanks may stand around both ends,
and a parenthesis in front and behind.  The form is stated without reading it
from the front, and a text is classified as a range exactly when it has that
form: no two ways of cutting a text matter, because a run of an end goes on as
far as it can.
-/

namespace DocLint

open Text

namespace Literal

/-! ## Blanks and digits -/

theorem isNameChar_of_isDigit
    {c : Char}
    (digit : isDigit c = true) :
    isNameChar c = true := by
  unfold isDigit at digit
  unfold isNameChar isAlphanumeric
  split at digit
  · rename_i narrow
    simp [narrow, Char.isAlphanum, digit]
  · rename_i wide
    rw [Bool.and_eq_true] at digit
    simp [wide, digit.2]

theorem isNameChar_of_isDigitOrUnderscore
    {c : Char}
    (digit : isDigitOrUnderscore c = true) :
    isNameChar c = true := by
  rw [isDigitOrUnderscore, Bool.or_eq_true] at digit
  rcases digit with isDigit | isUnderscore
  · exact isNameChar_of_isDigit isDigit
  · rw [beq_iff_eq.mp isUnderscore]
    decide

theorem isDigitOrUnderscore_eq_false_of_isBlank
    {c : Char}
    (blank : isBlank c = true) :
    isDigitOrUnderscore c = false := by
  by_contra digit
  have nameChar := isNameChar_of_isDigitOrUnderscore
    ((Bool.not_eq_false _).mp digit)
  rw [isNameChar_eq_false_of_isBlank blank] at nameChar
  exact absurd nameChar (by decide)

theorem beq_eq_false_of_outside
    {inClass : Char → Bool}
    {c other : Char}
    (inside : inClass c = true)
    (outside : inClass other = false) :
    (c == other) = false := by
  rw [beq_eq_false_iff_ne]
  rintro rfl
  exact absurd (inside.symm.trans outside) (by decide)

theorem isDot_eq_false_of_isBlank
    {c : Char}
    (blank : isBlank c = true) :
    (c == '.') = false :=
  beq_eq_false_of_outside blank (by decide)

theorem startsOutside_blanks
    {inClass : Char → Bool}
    {blanks rest : List Char}
    (allBlank : ∀ c ∈ blanks, isBlank c = true)
    (noBlank : ∀ c, isBlank c = true → inClass c = false)
    (apart : StartsOutside inClass rest) :
    StartsOutside inClass (blanks ++ rest) :=
  startsOutside_append (fun c member => noBlank c (allBlank c member)) apart

/-- A range closes with a parenthesis or with nothing. -/
theorem startsOutside_closing
    {inClass : Char → Bool}
    {closing : List Char}
    (isClosing : closing = [] ∨ closing = [')'])
    (noParenthesis : inClass ')' = false) :
    StartsOutside inClass closing := by
  rcases isClosing with rfl | rfl
  · rintro c ⟨⟩
  · exact startsOutside_cons noParenthesis []

/-- Digits, with underscores behind the first. -/
inductive IsDigits : List Char → Prop
  | intro {digit : Char} {more : List Char} :
      isDigit digit = true → (∀ c ∈ more, isDigitOrUnderscore c = true) →
      IsDigits (digit :: more)

theorem IsDigits.afterDigits?_append
    {digits rest : List Char}
    (areDigits : IsDigits digits)
    (apart : StartsOutside isDigitOrUnderscore rest) :
    afterDigits? (digits ++ rest) = some rest := by
  obtain ⟨isFirst, areMore⟩ := areDigits
  rw [List.cons_append, afterDigits?, if_pos isFirst,
    dropWhile_append areMore apart]

theorem exists_of_afterDigits?
    {text rest : List Char}
    (read : afterDigits? text = some rest) :
    ∃ digits, text = digits ++ rest ∧ IsDigits digits := by
  cases text with
  | nil => exact absurd read (by simp [afterDigits?])
  | cons digit behind =>
      rw [afterDigits?] at read
      split at read
      · rename_i isFirst
        obtain rfl := Option.some.inj read
        refine ⟨digit :: behind.takeWhile isDigitOrUnderscore, ?_,
          .intro isFirst fun c => List.mem_takeWhile_imp⟩
        rw [List.cons_append, List.takeWhile_append_dropWhile]
      · exact absurd read (by simp)

/-! ## Ends -/

/-- Characters of the end in front of the dots. -/
def isFirstEndChar (c : Char) : Bool :=
  c != '.' && !isBlank c

/-- Characters of the end behind the dots. -/
def isLastEndChar (c : Char) : Bool :=
  c != '.' && !isBlank c && c != '(' && c != ')'

/-- An end of a range: some characters, and a fraction perhaps. -/
inductive IsEnd (accepts : Char → Bool) : List Char → Prop
  | run {run : List Char} :
      run ≠ [] → (∀ c ∈ run, accepts c = true) → IsEnd accepts run
  | fraction {run digits : List Char} :
      run ≠ [] → (∀ c ∈ run, accepts c = true) → IsDigits digits →
      IsEnd accepts (run ++ '.' :: digits)

theorem IsEnd.ne_nil
    {accepts : Char → Bool}
    {endpoint : List Char}
    (isEnd : IsEnd accepts endpoint) :
    endpoint ≠ [] := by
  cases isEnd with
  | run nonempty _ => exact nonempty
  | fraction _ _ _ => simp

/-- A text that does not go on with a fraction. -/
def NoFraction (text : List Char) : Prop :=
  ∀ more, text = '.' :: more → afterDigits? more = none

theorem noFraction_of_startsOutside
    {text : List Char}
    (apart : StartsOutside (· == '.') text) :
    NoFraction text := by
  rintro more rfl
  exact absurd (apart '.' rfl) (by simp)

/-- A text that does not continue an end that it follows. -/
structure StopsEnd (accepts : Char → Bool) (text : List Char) : Prop where
  noRun : StartsOutside accepts text
  noDigits : StartsOutside isDigitOrUnderscore text
  noFraction : NoFraction text

section Ends

variable {accepts : Char → Bool}

theorem afterEndpoint?_eq_none
    {text : List Char}
    (apart : StartsOutside accepts text) :
    afterEndpoint? accepts text = none := by
  rw [afterEndpoint?, takeWhile_eq_nil apart]
  rfl

theorem afterEndpoint?_run
    {run rest : List Char}
    (nonempty : run ≠ [])
    (inside : ∀ c ∈ run, accepts c = true)
    (stops : StopsEnd accepts rest) :
    afterEndpoint? accepts (run ++ rest) = some rest := by
  rw [afterEndpoint?, takeWhile_append inside stops.noRun,
    dropWhile_append inside stops.noRun, if_neg (by simpa using nonempty)]
  split
  · rename_i more
    rw [stops.noFraction more rfl]
  · rfl

variable (noDot : accepts '.' = false)

include noDot

theorem afterEndpoint?_fraction
    {run digits rest : List Char}
    (nonempty : run ≠ [])
    (inside : ∀ c ∈ run, accepts c = true)
    (areDigits : IsDigits digits)
    (apart : StartsOutside isDigitOrUnderscore rest) :
    afterEndpoint? accepts (run ++ '.' :: (digits ++ rest)) = some rest := by
  have stops : StartsOutside accepts ('.' :: (digits ++ rest)) :=
    startsOutside_cons noDot _
  rw [afterEndpoint?, takeWhile_append inside stops,
    dropWhile_append inside stops, if_neg (by simpa using nonempty)]
  simp only [areDigits.afterDigits?_append apart]

/-- An end is read as far as it goes. -/
theorem IsEnd.afterEndpoint?_append
    {endpoint rest : List Char}
    (isEnd : IsEnd accepts endpoint)
    (stops : StopsEnd accepts rest) :
    afterEndpoint? accepts (endpoint ++ rest) = some rest := by
  cases isEnd with
  | run nonempty inside =>
      exact afterEndpoint?_run nonempty inside stops
  | fraction nonempty inside areDigits =>
      rw [List.append_assoc]
      exact afterEndpoint?_fraction noDot nonempty inside areDigits
        stops.noDigits

omit noDot in
theorem exists_isEnd_of_afterEndpoint?
    {text rest : List Char}
    (read : afterEndpoint? accepts text = some rest) :
    ∃ endpoint, text = endpoint ++ rest ∧ IsEnd accepts endpoint := by
  have whole : text.takeWhile accepts ++ text.dropWhile accepts = text :=
    List.takeWhile_append_dropWhile
  have inside : ∀ c ∈ text.takeWhile accepts, accepts c = true :=
    fun c => List.mem_takeWhile_imp
  rw [afterEndpoint?] at read
  split at read
  · exact absurd read (by simp)
  · rename_i isRun
    have nonempty : text.takeWhile accepts ≠ [] := by simpa using isRun
    split at read
    · rename_i behind behindRun
      split at read
      · rename_i after readDigits
        obtain rfl := Option.some.inj read
        obtain ⟨digits, rfl, areDigits⟩ := exists_of_afterDigits? readDigits
        refine ⟨_, ?_, .fraction nonempty inside areDigits⟩
        rw [behindRun] at whole
        rw [List.append_assoc]
        exact whole.symm
      · obtain rfl := Option.some.inj read
        exact ⟨_, by rw [← behindRun, whole], .run nonempty inside⟩
    · obtain rfl := Option.some.inj read
      exact ⟨_, whole.symm, .run nonempty inside⟩

end Ends

theorem isBlank_eq_false_of_isFirstEndChar
    {c : Char}
    (accepted : isFirstEndChar c = true) :
    isBlank c = false := by
  simp only [isFirstEndChar, Bool.and_eq_true, Bool.not_eq_true'] at accepted
  exact accepted.2

theorem isFirstEndChar_of_isLastEndChar
    {c : Char}
    (accepted : isLastEndChar c = true) :
    isFirstEndChar c = true := by
  simp only [isLastEndChar, Bool.and_eq_true] at accepted
  simp only [isFirstEndChar, Bool.and_eq_true]
  exact accepted.1.1

/-- An end starts with one of its characters. -/
theorem IsEnd.startsOutside
    {accepts inClass : Char → Bool}
    {endpoint : List Char}
    (isEnd : IsEnd accepts endpoint)
    (disjoint : ∀ c, accepts c = true → inClass c = false)
    (rest : List Char) :
    StartsOutside inClass (endpoint ++ rest) := by
  cases isEnd with
  | run nonempty inside =>
      exact startsOutside_append_of_ne_nil nonempty
        (fun c member => disjoint c (inside c member)) rest
  | fraction nonempty inside _ =>
      rw [List.append_assoc]
      exact startsOutside_append_of_ne_nil nonempty
        (fun c member => disjoint c (inside c member)) _

/-! ## Behind the dots -/

/-- What stands behind the dots of a range: an end perhaps, with blanks around
it, and a parenthesis perhaps. -/
inductive IsRangeRest : List Char → Prop
  | intro {gap last space closing : List Char} :
      (∀ c ∈ gap, isBlank c = true) →
      (last = [] ∨ IsEnd isLastEndChar last) →
      (∀ c ∈ space, isBlank c = true) →
      (closing = [] ∨ closing = [')']) →
      IsRangeRest (gap ++ (last ++ (space ++ closing)))

theorem isRangeTail_eq (text : List Char) :
    isRangeTail text =
      let behind := trimStart
        ((afterEndpoint? isLastEndChar (trimStart text)).getD (trimStart text))
      behind == [] || behind == [')'] := rfl

/-- An end behind the dots is followed by nothing but a parenthesis. -/
theorem isRangeTail_append
    {gap last rest : List Char}
    (gapBlank : ∀ c ∈ gap, isBlank c = true)
    (notBlank : StartsOutside isBlank (last ++ rest))
    (read : afterEndpoint? isLastEndChar (last ++ rest) = some rest) :
    isRangeTail (gap ++ (last ++ rest)) =
      (trimStart rest == [] || trimStart rest == [')']) := by
  have trimmed : trimStart (gap ++ (last ++ rest)) = last ++ rest :=
    dropWhile_append gapBlank notBlank
  rw [isRangeTail_eq, trimmed, read]
  rfl

theorem trimStart_closing
    {blanks closing : List Char}
    (allBlank : ∀ c ∈ blanks, isBlank c = true)
    (isClosing : closing = [] ∨ closing = [')']) :
    trimStart (blanks ++ closing) = closing :=
  dropWhile_append allBlank (startsOutside_closing isClosing (by decide))

theorem isRangeTail_of_noEnd
    {blanks closing : List Char}
    (allBlank : ∀ c ∈ blanks, isBlank c = true)
    (isClosing : closing = [] ∨ closing = [')']) :
    isRangeTail (blanks ++ closing) = true := by
  rw [isRangeTail_eq, trimStart_closing allBlank isClosing]
  rcases isClosing with rfl | rfl <;> decide

/-- What follows an end behind the dots does not continue it. -/
theorem stopsEnd_closing
    {space closing : List Char}
    (spaceBlank : ∀ c ∈ space, isBlank c = true)
    (isClosing : closing = [] ∨ closing = [')']) :
    StopsEnd isLastEndChar (space ++ closing) := by
  have outside : ∀ inClass : Char → Bool,
      (∀ c, isBlank c = true → inClass c = false) → inClass ')' = false →
      StartsOutside inClass (space ++ closing) :=
    fun inClass noBlank noParenthesis => startsOutside_blanks spaceBlank noBlank
      (startsOutside_closing isClosing noParenthesis)
  constructor
  · exact outside _ (fun c blank => by simp [isLastEndChar, blank]) (by decide)
  · exact outside _ (fun c => isDigitOrUnderscore_eq_false_of_isBlank) (by decide)
  · exact noFraction_of_startsOutside
      (outside _ (fun c => isDot_eq_false_of_isBlank) (by decide))

theorem isRangeTail_iff
    {text : List Char} :
    isRangeTail text = true ↔ IsRangeRest text := by
  constructor
  · intro isTail
    rw [isRangeTail_eq] at isTail
    have front := leadingBlanks_append_trimStart text
    have blanks : ∀ part : List Char, ∀ c ∈ leadingBlanks part,
        isBlank c = true := fun part c => List.mem_takeWhile_imp
    cases read : afterEndpoint? isLastEndChar (trimStart text) with
    | none =>
        rw [read] at isTail
        have noLast := IsRangeRest.intro (blanks text) (Or.inl rfl)
          (blanks (trimStart text)) (by simpa using isTail)
        rwa [List.nil_append, leadingBlanks_append_trimStart,
          front] at noLast
    | some rest =>
        rw [read] at isTail
        obtain ⟨last, lastEq, isEnd⟩ := exists_isEnd_of_afterEndpoint? read
        have withLast := IsRangeRest.intro (blanks text) (Or.inr isEnd)
          (blanks rest) (by simpa using isTail)
        rwa [leadingBlanks_append_trimStart, ← lastEq, front] at withLast
  · rintro ⟨gapBlank, rfl | isEnd, spaceBlank, isClosing⟩
    · rw [List.nil_append, ← List.append_assoc]
      exact isRangeTail_of_noEnd
        (List.forall_mem_append.mpr ⟨gapBlank, spaceBlank⟩) isClosing
    · rename_i gap last space closing
      have notBlank := isEnd.startsOutside
        (fun c accepted => isBlank_eq_false_of_isFirstEndChar
          (isFirstEndChar_of_isLastEndChar accepted)) (space ++ closing)
      rw [isRangeTail_append gapBlank notBlank
        (isEnd.afterEndpoint?_append (by decide)
          (stopsEnd_closing spaceBlank isClosing)),
        trimStart_closing spaceBlank isClosing]
      simpa using isClosing

/-! ## In front of the dots -/

/-- Two dots or three. -/
def IsDots (text : List Char) : Prop :=
  text = ['.', '.'] ∨ text = ['.', '.', '.']

/-- Whether a text starts with dots and goes on as a range behind them. -/
def isDotted (text : List Char) : Bool :=
  match text with
  | '.' :: '.' :: '.' :: rest => isRangeTail rest
  | '.' :: '.' :: rest => isRangeTail rest
  | _ => false

/-- A range, apart from an opening parenthesis: an end perhaps, dots, and what
stands behind them. -/
inductive IsRangeBody : List Char → Prop
  | intro {space first gap dots rest : List Char} :
      (∀ c ∈ space, isBlank c = true) →
      (first = [] ∨ IsEnd isFirstEndChar first) →
      (∀ c ∈ gap, isBlank c = true) →
      IsDots dots →
      IsRangeRest rest →
      IsRangeBody (space ++ (first ++ (gap ++ (dots ++ rest))))

/-- A text that is written as a range. -/
inductive IsRangeText : List Char → Prop
  | bare {text : List Char} : IsRangeBody text → IsRangeText text
  | opened {text : List Char} : IsRangeBody text → IsRangeText ('(' :: text)

theorem isRangeBody_eq (text : List Char) :
    isRangeBody text =
      isDotted (((afterEndpoint? isFirstEndChar (trimStart text)).map
        trimStart).getD (trimStart text)) := rfl

theorem isDotted_append
    {dots rest : List Char}
    (isDots : IsDots dots)
    (noDot : StartsOutside (· == '.') rest) :
    isDotted (dots ++ rest) = isRangeTail rest := by
  rcases isDots with rfl | rfl
  · unfold isDotted
    split
    · rename_i more textEq
      obtain rfl : rest = '.' :: more := by simpa using textEq
      exact absurd (noDot '.' rfl) (by simp)
    · rename_i more _ textEq
      obtain rfl : rest = more := by simpa using textEq
      rfl
    · rename_i noDots
      exact absurd rfl (noDots rest)
  · rfl

theorem isDotted_eq_false
    {text : List Char}
    (noDot : StartsOutside (· == '.') text) :
    isDotted text = false := by
  unfold isDotted
  split
  · exact absurd (noDot '.' rfl) (by simp)
  · exact absurd (noDot '.' rfl) (by simp)
  · rfl

theorem exists_of_isDotted
    {text : List Char}
    (dotted : isDotted text = true) :
    ∃ dots rest, text = dots ++ rest ∧ IsDots dots ∧
      isRangeTail rest = true := by
  unfold isDotted at dotted
  split at dotted
  · exact ⟨['.', '.', '.'], _, rfl, Or.inr rfl, dotted⟩
  · exact ⟨['.', '.'], _, rfl, Or.inl rfl, dotted⟩
  · exact absurd dotted (by decide)

theorem IsDots.startsOutside
    {dots : List Char}
    (isDots : IsDots dots)
    {inClass : Char → Bool}
    (noDot : inClass '.' = false)
    (rest : List Char) :
    StartsOutside inClass (dots ++ rest) := by
  rcases isDots with rfl | rfl
  · exact startsOutside_cons noDot _
  · exact startsOutside_cons noDot _

theorem IsDots.noFraction
    {dots : List Char}
    (isDots : IsDots dots)
    (rest : List Char) :
    NoFraction (dots ++ rest) := by
  rcases isDots with rfl | rfl
  · rintro more ⟨⟩
    rfl
  · rintro more ⟨⟩
    rfl

/-- A range is read from the end in front of its dots. -/
theorem isRangeBody_append
    {space first rest : List Char}
    (spaceBlank : ∀ c ∈ space, isBlank c = true)
    (notBlank : StartsOutside isBlank (first ++ rest))
    (read : afterEndpoint? isFirstEndChar (first ++ rest) = some rest) :
    isRangeBody (space ++ (first ++ rest)) = isDotted (trimStart rest) := by
  have trimmed : trimStart (space ++ (first ++ rest)) = first ++ rest :=
    dropWhile_append spaceBlank notBlank
  rw [isRangeBody_eq, trimmed, read]
  rfl

theorem isRangeBody_of_noEnd
    {blanks dots rest : List Char}
    (allBlank : ∀ c ∈ blanks, isBlank c = true)
    (isDots : IsDots dots) :
    isRangeBody (blanks ++ (dots ++ rest)) = isDotted (dots ++ rest) := by
  have trimmed : trimStart (blanks ++ (dots ++ rest)) = dots ++ rest :=
    dropWhile_append allBlank (isDots.startsOutside (by decide) rest)
  rw [isRangeBody_eq, trimmed,
    afterEndpoint?_eq_none (isDots.startsOutside (by decide) rest)]
  rfl

/-- What follows an end in front of the dots does not continue it. -/
theorem stopsEnd_dots
    {gap dots : List Char}
    (gapBlank : ∀ c ∈ gap, isBlank c = true)
    (isDots : IsDots dots)
    (rest : List Char) :
    StopsEnd isFirstEndChar (gap ++ (dots ++ rest)) := by
  have outside : ∀ inClass : Char → Bool,
      (∀ c, isBlank c = true → inClass c = false) → inClass '.' = false →
      StartsOutside inClass (gap ++ (dots ++ rest)) :=
    fun inClass noBlank noDot => startsOutside_blanks gapBlank noBlank
      (isDots.startsOutside noDot rest)
  constructor
  · exact outside _ (fun c blank => by simp [isFirstEndChar, blank]) (by decide)
  · exact outside _ (fun c => isDigitOrUnderscore_eq_false_of_isBlank) (by decide)
  · cases gap with
    | nil => exact isDots.noFraction rest
    | cons c more =>
        refine noFraction_of_startsOutside (startsOutside_cons ?_ _)
        exact isDot_eq_false_of_isBlank (gapBlank c List.mem_cons_self)

theorem IsRangeRest.startsOutside_dot
    {text : List Char}
    (isRest : IsRangeRest text) :
    StartsOutside (· == '.') text := by
  obtain ⟨gapBlank, isLast, spaceBlank, isClosing⟩ := isRest
  refine startsOutside_blanks gapBlank (fun c => isDot_eq_false_of_isBlank) ?_
  rcases isLast with rfl | isEnd
  · rw [List.nil_append]
    exact startsOutside_blanks spaceBlank (fun c => isDot_eq_false_of_isBlank)
      (startsOutside_closing isClosing (by decide))
  · exact isEnd.startsOutside
      (fun c accepted => beq_eq_false_of_outside accepted (by decide)) _

theorem isRangeBody_iff
    {text : List Char} :
    isRangeBody text = true ↔ IsRangeBody text := by
  constructor
  · intro isBody
    rw [isRangeBody_eq] at isBody
    have front := leadingBlanks_append_trimStart text
    have blanks : ∀ part : List Char, ∀ c ∈ leadingBlanks part,
        isBlank c = true := fun part c => List.mem_takeWhile_imp
    cases read : afterEndpoint? isFirstEndChar (trimStart text) with
    | none =>
        rw [read] at isBody
        obtain ⟨dots, rest, restEq, isDots, isTail⟩ := exists_of_isDotted isBody
        have noFirst := IsRangeBody.intro (blanks text) (Or.inl rfl)
          (List.forall_mem_nil _) isDots (isRangeTail_iff.mp isTail)
        rwa [List.nil_append, List.nil_append, ← restEq, Option.map_none,
          Option.getD_none, front] at noFirst
    | some behind =>
        rw [read] at isBody
        obtain ⟨dots, rest, restEq, isDots, isTail⟩ := exists_of_isDotted isBody
        obtain ⟨first, firstEq, isEnd⟩ := exists_isEnd_of_afterEndpoint? read
        have withFirst := IsRangeBody.intro (blanks text) (Or.inr isEnd)
          (blanks behind) isDots (isRangeTail_iff.mp isTail)
        rwa [← restEq, Option.map_some, Option.getD_some,
          leadingBlanks_append_trimStart, ← firstEq, front] at withFirst
  · rintro ⟨spaceBlank, rfl | isEnd, gapBlank, isDots, isRest⟩
    · rw [List.nil_append, ← List.append_assoc,
        isRangeBody_of_noEnd
          (List.forall_mem_append.mpr ⟨spaceBlank, gapBlank⟩) isDots,
        isDotted_append isDots isRest.startsOutside_dot]
      exact isRangeTail_iff.mpr isRest
    · rename_i space first gap dots rest
      have notBlank := isEnd.startsOutside
        (fun c => isBlank_eq_false_of_isFirstEndChar) (gap ++ (dots ++ rest))
      have trimmed : trimStart (gap ++ (dots ++ rest)) = dots ++ rest :=
        dropWhile_append gapBlank (isDots.startsOutside (by decide) rest)
      rw [isRangeBody_append spaceBlank notBlank
          (isEnd.afterEndpoint?_append (by decide)
            (stopsEnd_dots gapBlank isDots rest)), trimmed,
        isDotted_append isDots isRest.startsOutside_dot]
      exact isRangeTail_iff.mpr isRest

/-- The texts that are taken for ranges are those that are written as one. -/
theorem isRange_iff
    {text : List Char} :
    isRange text = true ↔ IsRangeText text := by
  unfold isRange
  rw [Bool.or_eq_true, isRangeBody_iff]
  constructor
  · rintro (isBody | isOpened)
    · exact .bare isBody
    · split at isOpened
      · exact .opened (isRangeBody_iff.mp isOpened)
      · exact absurd isOpened (by decide)
  · rintro (isBody | isBody)
    · exact Or.inl isBody
    · exact Or.inr (isRangeBody_iff.mpr isBody)

end Literal
end DocLint
