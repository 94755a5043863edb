import Mathlib.Data.List.TakeWhile
import Mathlib.Data.Option.Basic
import DocLint.Json.Printer
import DocLint.Json.Token
import DocLint.Proofs.Boundaries

/-!
# The tokens of written JSON

What the writer puts for a string, a number or a word is read as one token.  A
string ends at its closing quote whatever it holds, because quotes, backslashes
and control characters are escaped.  A number goes on as long as characters of
numbers follow, so it is read back only in front of a text that starts
otherwise; `ReadsAs` is the reading of a text in front of every such text, and
it is what texts are put together by.
-/

namespace DocLint

/-- A reader returned a value and left the rest of its input. -/
def Leaves
    {α β : Type}
    {items : List α}
    (outcome : Option (β × Rest items))
    (value : β)
    (rest : List α) : Prop :=
  ∃ less, outcome = some (value, ⟨rest, less⟩)

namespace Json

/-! ## Strings -/

/-- A character of a string is written as a letter behind a backslash, by its
number, or as itself. -/
theorem escapedChar_cases (c : Char) :
    (∃ letter, escaped? letter = some c ∧ escapedChar c = ['\\', letter]) ∨
    (c.toNat < 0x20 ∧ escapedChar c =
      ['\\', 'u', '0', '0', hexDigit (c.toNat / 16),
        hexDigit (c.toNat % 16)]) ∨
    (c ≠ '"' ∧ c ≠ '\\' ∧ 0x20 ≤ c.toNat ∧ escapedChar c = [c]) := by
  by_cases hasLetter : c ∈ ['"', '\\', '\x08', '\x0c', '\n', '\r', '\t']
  · left
    simp only [List.mem_cons, List.not_mem_nil, or_false] at hasLetter
    rcases hasLetter with rfl | rfl | rfl | rfl | rfl | rfl | rfl
    · exact ⟨'"', rfl, rfl⟩
    · exact ⟨'\\', rfl, rfl⟩
    · exact ⟨'b', rfl, rfl⟩
    · exact ⟨'f', rfl, rfl⟩
    · exact ⟨'n', rfl, rfl⟩
    · exact ⟨'r', rfl, rfl⟩
    · exact ⟨'t', rfl, rfl⟩
  · simp only [List.mem_cons, List.not_mem_nil, or_false, not_or] at hasLetter
    by_cases isControl : c.toNat < 0x20
    · have written : escapedChar c = ['\\', 'u', '0', '0',
          hexDigit (c.toNat / 16), hexDigit (c.toNat % 16)] := by
        simp [escapedChar, hasLetter, isControl]
      exact Or.inr (Or.inl ⟨isControl, written⟩)
    · have written : escapedChar c = [c] := by
        simp [escapedChar, hasLetter, isControl]
      exact Or.inr (Or.inr ⟨hasLetter.1, hasLetter.2.1,
        Nat.le_of_not_lt isControl, written⟩)

theorem unitValue?_hexDigit :
    ∀ n < 0x20,
      unitValue? '0' '0' (hexDigit (n / 16)) (hexDigit (n % 16)) = some n := by
  decide

/-- A character below the surrogates stands for itself. -/
theorem charsOfParts_unit
    {c : Char}
    (isControl : c.toNat < 0x20)
    (parts : List StringPart) :
    charsOfParts (.unit c.toNat :: parts) =
      (charsOfParts parts).map (c :: ·) := by
  have notHigh : ¬ (0xD800 ≤ c.toNat ∧ c.toNat < 0xDC00) := by omega
  have notLow : ¬ (0xDC00 ≤ c.toNat ∧ c.toNat < 0xE000) := by omega
  rw [charsOfParts.eq_def]
  simp only [if_neg notHigh, if_neg notLow, Char.ofNat_toNat]

section Parts

variable {text rest : List Char}
variable {parts : List StringPart}
variable (read : Leaves (stringParts? text) parts rest)

include read

theorem stringParts?_letter
    {letter c : Char}
    (escapes : escaped? letter = some c) :
    Leaves (stringParts? ('\\' :: letter :: text)) (.char c :: parts) rest := by
  obtain ⟨less, read⟩ := read
  have notUnit : letter ≠ 'u' := by
    rintro rfl
    exact absurd escapes (by simp [escaped?])
  rw [stringParts?]
  · rw [escapes, read]
    exact ⟨_, rfl⟩
  · intro a b c d more isUnit
    exact absurd isUnit notUnit

theorem stringParts?_unit
    {a b c d : Char}
    {value : Nat}
    (isUnit : unitValue? a b c d = some value) :
    Leaves (stringParts? ('\\' :: 'u' :: a :: b :: c :: d :: text))
      (.unit value :: parts) rest := by
  obtain ⟨less, read⟩ := read
  rw [stringParts?, isUnit, read]
  exact ⟨_, rfl⟩

theorem stringParts?_char
    {c : Char}
    (notQuote : c ≠ '"')
    (notBackslash : c ≠ '\\')
    (notControl : 0x20 ≤ c.toNat) :
    Leaves (stringParts? (c :: text)) (.char c :: parts) rest := by
  obtain ⟨less, read⟩ := read
  have allowed : (decide (0x20 ≤ c.toNat) && c != '\\') = true := by
    simp [notControl, notBackslash]
  rw [stringParts?]
  · rw [allowed, read]
    exact ⟨_, rfl⟩
  · exact notQuote
  · intro a b d e more isBackslash
    exact absurd isBackslash notBackslash
  · intro letter more isBackslash
    exact absurd isBackslash notBackslash

/-- A written character is read as one part, which stands for that character. -/
theorem exists_part (c : Char) :
    ∃ part,
      Leaves (stringParts? (escapedChar c ++ text)) (part :: parts) rest ∧
      charsOfParts (part :: parts) = (charsOfParts parts).map (c :: ·) := by
  rcases escapedChar_cases c with
    ⟨letter, escapes, written⟩ | ⟨isControl, written⟩ |
      ⟨notQuote, notBackslash, notControl, written⟩
  · rw [written]
    exact ⟨.char c, stringParts?_letter read escapes, rfl⟩
  · rw [written]
    exact ⟨.unit c.toNat,
      stringParts?_unit read (unitValue?_hexDigit c.toNat isControl),
      charsOfParts_unit isControl parts⟩
  · rw [written]
    exact ⟨.char c, stringParts?_char read notQuote notBackslash notControl,
      rfl⟩

end Parts

/-- A written string is read up to its closing quote. -/
theorem exists_parts (chars rest : List Char) :
    ∃ parts,
      Leaves (stringParts? (chars.flatMap escapedChar ++ '"' :: rest))
        parts rest ∧
      charsOfParts parts = some chars := by
  induction chars with
  | nil =>
      refine ⟨[], ?_, rfl⟩
      rw [List.flatMap_nil, List.nil_append, stringParts?]
      exact ⟨_, rfl⟩
  | cons c chars hypothesis =>
      obtain ⟨parts, read, stands⟩ := hypothesis
      obtain ⟨part, partRead, partStands⟩ := exists_part read c
      refine ⟨part :: parts, ?_, ?_⟩
      · rwa [List.flatMap_cons, List.append_assoc]
      · rw [partStands, stands]
        rfl

/-! ## Numbers -/

theorem isDigit_of_mem_naturalChars
    {n : Nat}
    {c : Char}
    (member : c ∈ naturalChars n) :
    c.isDigit = true :=
  Nat.isDigit_of_mem_toDigits (by decide) (by decide) member

theorem isNumberChar_of_mem_naturalChars
    {n : Nat}
    {c : Char}
    (member : c ∈ naturalChars n) :
    isNumberChar c = true := by
  simp [isNumberChar, isDigit_of_mem_naturalChars member]

theorem digitsValue_naturalChars (n : Nat) :
    digitsValue (naturalChars n) = n :=
  Nat.ofDigitChars_ten_toDigits

/-- Digits are not written with a zero in front of others. -/
theorem exists_first_digit
    {n : Nat}
    (positive : 0 < n) :
    ∃ first more, naturalChars n = first :: more ∧ first ≠ '0' := by
  have digitChar_ne : ∀ digit < 10, 0 < digit → digit.digitChar ≠ '0' := by
    decide
  unfold naturalChars
  induction n using Nat.strong_induction_on with
  | h n hypothesis =>
      by_cases small : n < 10
      · exact ⟨n.digitChar, [], Nat.toDigits_of_lt_base small,
          digitChar_ne n small positive⟩
      · obtain ⟨first, more, digits, notZero⟩ :=
          hypothesis (n / 10) (by omega) (by omega)
        refine ⟨first, more ++ [(n % 10).digitChar], ?_, notZero⟩
        rw [Nat.toDigits_of_base_le (by decide) (Nat.le_of_not_lt small),
          digits, List.cons_append]

theorem isWhole_naturalChars (n : Nat) :
    isWhole (naturalChars n) = true := by
  rcases Nat.eq_zero_or_pos n with rfl | positive
  · rfl
  · obtain ⟨first, more, digits, notZero⟩ := exists_first_digit positive
    rw [digits, isWhole]
    · simpa using notZero
    · intro isZero
      exact absurd isZero notZero

theorem exists_digit (n : Nat) :
    ∃ digit digits, naturalChars n = digit :: digits ∧
      digit.isDigit = true := by
  have nonempty : naturalChars n ≠ [] := Nat.toDigits_ne_nil
  obtain ⟨digit, digits, written⟩ := List.exists_cons_of_ne_nil nonempty
  exact ⟨digit, digits, written,
    isDigit_of_mem_naturalChars (written ▸ List.mem_cons_self)⟩

/-- A written number starts with a digit, whatever follows it. -/
theorem isDigit_of_naturalChars_append
    {n : Nat}
    {rest : List Char}
    {first : Char}
    {more : List Char}
    (starts : naturalChars n ++ rest = first :: more) :
    first.isDigit = true := by
  obtain ⟨digit, digits, written, isDigit⟩ := exists_digit n
  rw [written] at starts
  cases starts
  exact isDigit

theorem isDigit_of_naturalChars
    {n : Nat}
    {first : Char}
    {more : List Char}
    (starts : naturalChars n = first :: more) :
    first.isDigit = true :=
  isDigit_of_naturalChars_append ((List.append_nil _).trans starts)

theorem number?_naturalChars (n : Nat) :
    number? (naturalChars n) = some (.natural n) := by
  have areDigits : ∀ c ∈ naturalChars n, c.isDigit = true :=
    fun _ => isDigit_of_mem_naturalChars
  have ends : StartsOutside Char.isDigit [] := by
    intro c isFirst
    cases isFirst
  have taken := takeWhile_append areDigits ends
  have dropped := dropWhile_append areDigits ends
  rw [List.append_nil] at taken dropped
  unfold number?
  split
  rename_i negative text signed
  split at signed
  · rename_i more isSigned
    exact absurd (isDigit_of_naturalChars isSigned) (by decide)
  · cases signed
    dsimp only
    rw [taken, dropped, isWhole_naturalChars, digitsValue_naturalChars]
    rfl

theorem isExponent_naturalChars (n : Nat) :
    (!(naturalChars n).isEmpty && (naturalChars n).all Char.isDigit) =
      true := by
  have nonempty : (naturalChars n).isEmpty = false :=
    List.isEmpty_eq_false_iff.mpr Nat.toDigits_ne_nil
  have areDigits : (naturalChars n).all Char.isDigit = true :=
    List.all_eq_true.mpr fun _ => isDigit_of_mem_naturalChars
  rw [nonempty, areDigits]
  rfl

theorem exponent?_minus (n : Nat) :
    exponent? ('e' :: '-' :: naturalChars n) = some (-(n : Int)) := by
  show Option.bind (guard ((!(naturalChars n).isEmpty &&
      (naturalChars n).all Char.isDigit) = true))
    (fun _ => some (-(digitsValue (naturalChars n) : Int))) = _
  rw [isExponent_naturalChars, digitsValue_naturalChars]
  rfl

theorem exponent?_naturalChars (n : Nat) :
    exponent? ('e' :: naturalChars n) = some (n : Int) := by
  unfold exponent?
  split
  · rename_i none
    exact absurd none (by simp)
  · rename_i mark rest same
    cases same
    split
    rename_i negative digits signed
    split at signed
    · rename_i more isSigned
      exact absurd (isDigit_of_naturalChars isSigned) (by decide)
    · rename_i more isSigned
      exact absurd (isDigit_of_naturalChars isSigned) (by decide)
    · cases signed
      dsimp only
      rw [isExponent_naturalChars, digitsValue_naturalChars]
      rfl

/-- The sign and the digits of an exponent. -/
theorem exponent?_signed (exponent : Int) :
    exponent? ('e' :: ((if exponent < 0 then ['-'] else []) ++
      naturalChars exponent.natAbs)) = some exponent := by
  by_cases negative : exponent < 0
  · rw [if_pos negative, List.cons_append, List.nil_append, exponent?_minus]
    congr 1
    omega
  · rw [if_neg negative, List.nil_append, exponent?_naturalChars]
    congr 1
    omega

theorem number?_decimalChars
    (negative : Bool)
    (mantissa : Nat)
    (exponent : Int) :
    number? (decimalChars negative mantissa exponent) =
      some (.decimal negative mantissa exponent) := by
  have areDigits : ∀ c ∈ naturalChars mantissa, c.isDigit = true :=
    fun _ => isDigit_of_mem_naturalChars
  have read := exponent?_signed exponent
  unfold decimalChars
  simp only [List.append_assoc, List.cons_append]
  generalize (if exponent < 0 then ['-'] else []) ++
    naturalChars exponent.natAbs = rest at read
  have apart : StartsOutside Char.isDigit ('e' :: rest) := by
    intro c isFirst
    cases isFirst
    rfl
  unfold number?
  split
  rename_i sign text signed
  have unsigned : sign = negative ∧
      text = naturalChars mantissa ++ 'e' :: rest := by
    cases negative with
    | true =>
        cases signed
        exact ⟨rfl, rfl⟩
    | false =>
        split at signed
        · rename_i more isSigned
          exact absurd (isDigit_of_naturalChars_append isSigned) (by decide)
        · cases signed
          exact ⟨rfl, rfl⟩
  obtain ⟨rfl, rfl⟩ := unsigned
  dsimp only
  rw [takeWhile_append areDigits apart, dropWhile_append areDigits apart,
    isWhole_naturalChars, digitsValue_naturalChars]
  show (exponent? ('e' :: rest)).bind (fun value =>
    some (Token.decimal sign mantissa value)) = _
  rw [read]
  rfl

/-! ## Texts put together -/

/-- A text that a number in front of it cannot take in. -/
def EndsNumber (text : List Char) : Prop :=
  StartsOutside isNumberChar text

/-- A text is read as the given tokens, in front of every text that ends
numbers. -/
def ReadsAs (text : List Char) (tokens : List Token) : Prop :=
  ∀ rest, EndsNumber rest →
    tokens? (text ++ rest) = (tokens? rest).map (tokens ++ ·)

theorem isSpace_cases
    {c : Char}
    (isSpace : isSpace c = true) :
    c = ' ' ∨ c = '\t' ∨ c = '\n' ∨ c = '\r' := by
  simpa [Json.isSpace, or_assoc] using isSpace

theorem isNumberChar_of_isSpace
    {c : Char}
    (isSpace : isSpace c = true) :
    isNumberChar c = false := by
  rcases isSpace_cases isSpace with rfl | rfl | rfl | rfl <;> rfl

theorem punctuation?_cases
    {c : Char}
    {token : Token}
    (isPunctuation : punctuation? c = some token) :
    c = '[' ∨ c = ']' ∨ c = '\x7b' ∨ c = '\x7d' ∨ c = ':' ∨ c = ',' := by
  unfold punctuation? at isPunctuation
  split at isPunctuation <;> simp at isPunctuation ⊢

theorem isNumberChar_of_punctuation?
    {c : Char}
    {token : Token}
    (isPunctuation : punctuation? c = some token) :
    isNumberChar c = false := by
  rcases punctuation?_cases isPunctuation with
    rfl | rfl | rfl | rfl | rfl | rfl <;> rfl

theorem isSpace_of_punctuation?
    {c : Char}
    {token : Token}
    (isPunctuation : punctuation? c = some token) :
    isSpace c = false := by
  rcases punctuation?_cases isPunctuation with
    rfl | rfl | rfl | rfl | rfl | rfl <;> rfl

namespace EndsNumber

theorem nil : EndsNumber [] := by
  intro c isFirst
  cases isFirst

theorem cons
    {c : Char}
    (notNumber : isNumberChar c = false)
    (text : List Char) :
    EndsNumber (c :: text) := by
  intro first isFirst
  cases isFirst
  exact notNumber

theorem append
    {text rest : List Char}
    (ends : EndsNumber text)
    (restEnds : EndsNumber rest) :
    EndsNumber (text ++ rest) := by
  cases text with
  | nil => exact restEnds
  | cons c text => exact cons (ends c rfl) (text ++ rest)

theorem spaces
    {blanks text : List Char}
    (areSpaces : ∀ c ∈ blanks, isSpace c = true)
    (ends : EndsNumber text) :
    EndsNumber (blanks ++ text) := by
  cases blanks with
  | nil => exact ends
  | cons c blanks =>
      exact cons (isNumberChar_of_isSpace (areSpaces c List.mem_cons_self)) _

end EndsNumber

theorem wordAt?_string
    {text rest : List Char}
    {parts : List StringPart}
    (read : Leaves (stringParts? text) parts rest) :
    Leaves (wordAt? ('"' :: text))
      (.string ((charsOfParts parts).map String.ofList)) rest := by
  obtain ⟨less, read⟩ := read
  rw [wordAt?, read]
  exact ⟨_, rfl⟩

theorem wordAt?_number
    {c : Char}
    (starts : c.isDigit = true ∨ c = '-')
    {text : List Char}
    {token : Token}
    (isNumber : number? (c :: text.takeWhile isNumberChar) = some token) :
    Leaves (wordAt? (c :: text)) token (text.dropWhile isNumberChar) := by
  rw [wordAt?]
  · rw [isNumber]
    exact ⟨_, rfl⟩
  all_goals
    intros
    subst_vars
    exact absurd starts (by decide)

theorem tokens?_of_leaves
    {c : Char}
    (notSpace : isSpace c = false)
    {text rest : List Char}
    {token : Token}
    (read : Leaves (tokenAt? c text) token rest) :
    tokens? (c :: text) = (tokens? rest).map (token :: ·) := by
  obtain ⟨less, read⟩ := read
  have notSpace : ¬ isSpace c = true := by
    rw [notSpace]
    exact Bool.false_ne_true
  rw [tokens?, if_neg notSpace, read]

namespace ReadsAs

theorem nil : ReadsAs [] [] := by
  intro rest _
  simp

theorem append
    {left right : List Char}
    {leftTokens rightTokens : List Token}
    (leftReads : ReadsAs left leftTokens)
    (ends : EndsNumber right)
    (rightReads : ReadsAs right rightTokens) :
    ReadsAs (left ++ right) (leftTokens ++ rightTokens) := by
  intro rest restEnds
  rw [List.append_assoc, leftReads _ (ends.append restEnds),
    rightReads rest restEnds, Option.map_map]
  congr 1
  funext tokens
  exact (List.append_assoc _ _ _).symm

theorem space
    {c : Char}
    (isSpace : isSpace c = true)
    {text : List Char}
    {tokens : List Token}
    (reads : ReadsAs text tokens) :
    ReadsAs (c :: text) tokens := by
  intro rest restEnds
  rw [List.cons_append, tokens?, if_pos isSpace]
  exact reads rest restEnds

theorem spaces
    {blanks : List Char}
    (areSpaces : ∀ c ∈ blanks, isSpace c = true)
    {text : List Char}
    {tokens : List Token}
    (reads : ReadsAs text tokens) :
    ReadsAs (blanks ++ text) tokens := by
  induction blanks with
  | nil => exact reads
  | cons c blanks hypothesis =>
      have others := hypothesis fun d member =>
        areSpaces d (List.mem_cons_of_mem c member)
      exact space (areSpaces c List.mem_cons_self) others

theorem punctuation
    {c : Char}
    {token : Token}
    (isPunctuation : punctuation? c = some token)
    {text : List Char}
    {tokens : List Token}
    (reads : ReadsAs text tokens) :
    ReadsAs (c :: text) (token :: tokens) := by
  intro rest restEnds
  have read : Leaves (tokenAt? c (text ++ rest)) token (text ++ rest) := by
    rw [tokenAt?, isPunctuation]
    exact ⟨_, rfl⟩
  rw [List.cons_append,
    tokens?_of_leaves (isSpace_of_punctuation? isPunctuation) read,
    reads rest restEnds, Option.map_map]
  rfl

/-- A text that is one token wherever it stands. -/
theorem token
    {c : Char}
    (notSpace : isSpace c = false)
    (notPunctuation : punctuation? c = none)
    {text : List Char}
    {token : Token}
    (read : ∀ rest, EndsNumber rest →
      Leaves (wordAt? (c :: (text ++ rest))) token rest) :
    ReadsAs (c :: text) [token] := by
  intro rest restEnds
  have read : Leaves (tokenAt? c (text ++ rest)) token rest := by
    rw [tokenAt?, notPunctuation]
    exact read rest restEnds
  rw [List.cons_append, tokens?_of_leaves notSpace read]
  rfl

theorem null : ReadsAs "null".toList [.null] := by
  apply token rfl rfl
  intro rest _
  exact ⟨_, rfl⟩

theorem isTrue : ReadsAs "true".toList [.bool true] := by
  apply token rfl rfl
  intro rest _
  exact ⟨_, rfl⟩

theorem isFalse : ReadsAs "false".toList [.bool false] := by
  apply token rfl rfl
  intro rest _
  exact ⟨_, rfl⟩

theorem string (text : String) :
    ReadsAs (stringChars text) [.string (some text)] := by
  have written : stringChars text =
      '"' :: (text.toList.flatMap escapedChar ++ ['"']) := rfl
  rw [written]
  apply token rfl rfl
  intro rest _
  obtain ⟨parts, read, stands⟩ := exists_parts text.toList rest
  have string := wordAt?_string read
  rw [stands, Option.map_some, String.ofList_toList] at string
  rwa [List.append_assoc, List.cons_append, List.nil_append]

theorem unreadable : ReadsAs unreadableChars [.string none] := by
  have written : unreadableChars =
      '"' :: ['\\', 'u', 'd', '8', '0', '0', '"'] := by
    decide
  rw [written]
  apply token rfl rfl
  intro rest _
  have closes : Leaves (stringParts? ('"' :: rest)) [] rest := by
    rw [stringParts?]
    exact ⟨_, rfl⟩
  have half : charsOfParts [.unit 0xD800] = none := by decide
  have string := wordAt?_string (stringParts?_unit closes
    (show unitValue? 'd' '8' '0' '0' = some 0xD800 by decide))
  rwa [half, Option.map_none] at string

/-- A number is read up to a character that cannot stand in it. -/
theorem number
    {text : List Char}
    (starts : ∃ c more, text = c :: more ∧ (c.isDigit = true ∨ c = '-'))
    (inside : ∀ c ∈ text, isNumberChar c = true)
    {token : Token}
    (isNumber : number? text = some token) :
    ReadsAs text [token] := by
  obtain ⟨c, more, rfl, starts⟩ := starts
  have first : isNumberChar c = true := inside c List.mem_cons_self
  have others : ∀ d ∈ more, isNumberChar d = true :=
    fun d member => inside d (List.mem_cons_of_mem c member)
  apply ReadsAs.token
  · rw [Bool.eq_false_iff]
    intro isSpace
    rw [isNumberChar_of_isSpace isSpace] at first
    cases first
  · rw [Option.eq_none_iff_forall_ne_some]
    intro other isPunctuation
    rw [isNumberChar_of_punctuation? isPunctuation] at first
    cases first
  · intro rest ends
    have taken : (more ++ rest).takeWhile isNumberChar = more :=
      takeWhile_append others ends
    have dropped : (more ++ rest).dropWhile isNumberChar = rest :=
      dropWhile_append others ends
    rw [← taken] at isNumber
    have read := wordAt?_number starts isNumber
    rwa [dropped] at read

theorem natural (value : Nat) :
    ReadsAs (naturalChars value) [.natural value] := by
  obtain ⟨digit, digits, written, isDigit⟩ := exists_digit value
  exact number ⟨digit, digits, written, Or.inl isDigit⟩
    (fun _ => isNumberChar_of_mem_naturalChars) (number?_naturalChars value)

theorem decimal
    (negative : Bool)
    (mantissa : Nat)
    (exponent : Int) :
    ReadsAs (decimalChars negative mantissa exponent)
      [.decimal negative mantissa exponent] := by
  refine number ?_ ?_ (number?_decimalChars negative mantissa exponent)
  · obtain ⟨digit, digits, written, isDigit⟩ := exists_digit mantissa
    cases negative with
    | true => exact ⟨'-', _, rfl, Or.inr rfl⟩
    | false =>
        unfold decimalChars
        rw [written]
        exact ⟨digit, _, rfl, Or.inl isDigit⟩
  · have sign (isNegative : Prop) [Decidable isNegative] :
        ∀ c ∈ (if isNegative then ['-'] else []), isNumberChar c = true := by
      split <;> simp [isNumberChar]
    intro c member
    unfold decimalChars at member
    simp only [List.mem_append, List.mem_cons] at member
    rcases member with ((isSign | isDigit) | isMark | isSign) | isDigit
    · exact sign _ c isSign
    · exact isNumberChar_of_mem_naturalChars isDigit
    · rw [isMark]
      rfl
    · exact sign _ c isSign
    · exact isNumberChar_of_mem_naturalChars isDigit

end ReadsAs

end Json
end DocLint
