import DocLint.Proofs.Checked.Cuts
import DocLint.Proofs.TagPlaces
import DocLint.Proofs.TypeList

/-!
# Lists of types by byte positions

Words and lists of types are found in a text as stretches between two byte
positions.  The loops over the characters keep count of the position, and
brackets are matched with a depth that goes up and down.  Each stretch that is
found is a part of the text, and the same one that is found by cutting the text
into lists of characters.
-/

namespace DocLint
namespace Checked

open Text

/-- A part of a text between two byte positions. -/
structure Stretch where
  start : Nat
  stop : Nat
  deriving DecidableEq, Repr

/-- The positions of a part that is cut out. -/
def Stretch.ofCutting (cutting : Cutting) : Stretch :=
  ⟨byteLength cutting.before,
    byteLength cutting.before + byteLength cutting.text⟩

/-! ## Words -/

/-- The byte position of the first blank. -/
def firstBlank? (text : List Char) : Option Nat :=
  if afterWord text = [] then none else some (byteLength (leadingWord text))

/-- The first word from a byte position on. -/
def nextWord (text : List Char) (start : Nat) : Except Fault (Option Stretch) := do
  let rest ← partFrom text start
  let blanks ← subtract (byteLength rest) (byteLength (trimStart rest))
  let wordStart := start + blanks
  let behind ← partFrom text wordStart
  let whole ← subtract (byteLength text) wordStart
  let length := (firstBlank? behind).getD whole
  if 0 < length then
    return some ⟨wordStart, wordStart + length⟩
  else
    return none

theorem firstBlank?_getD (text : List Char) :
    (firstBlank? text).getD (byteLength text) = byteLength (leadingWord text) := by
  have whole := leadingWord_append_afterWord text
  rw [firstBlank?]
  split
  · rename_i noMore
    rw [noMore, List.append_nil] at whole
    rw [whole]
    rfl
  · rfl

/-- The word that is found is the first one. -/
theorem nextWord_eq (before rest : List Char) :
    nextWord (before ++ rest) (byteLength before) =
      .ok ((Cutting.firstWord? before rest).map Stretch.ofCutting) := by
  have length : byteLength (before ++ rest) =
      byteLength before + byteLength (leadingBlanks rest) +
        byteLength (trimStart rest) := by
    rw [Nat.add_assoc, ← byteLength_append, leadingBlanks_append_trimStart,
      byteLength_append]
  rw [nextWord, partFrom_append, ok_bind, subtract_trimStart, ok_bind]
  dsimp only
  rw [partFrom_blanks, ok_bind, length, add_subtract, ok_bind,
    firstBlank?_getD, Cutting.firstWord?]
  cases leadingWord (trimStart rest) with
  | nil => rfl
  | cons c word =>
      rw [if_pos (byteLength_pos (by simp))]
      simp only [Option.map_some, Stretch.ofCutting, byteLength_append]
      rfl

/-! ## Brackets -/

/-- The byte position of the closing bracket that ends a depth of brackets. -/
def closingFrom : Nat → Nat → List Char → Except Fault (Option Nat)
  | _, _, [] => return none
  | position, depth, c :: rest =>
    if c = '[' then
      closingFrom (position + c.utf8Size) (depth + 1) rest
    else if c = ']' then do
      let depth ← subtract depth 1
      if depth = 0 then
        return some position
      else
        closingFrom (position + c.utf8Size) depth rest
    else
      closingFrom (position + c.utf8Size) depth rest

/-- The byte position of the bracket that closes the one at a byte position. -/
def matchingBracket
    (text : List Char)
    (opening : Nat) : Except Fault (Option Nat) := do
  let rest ← partFrom text opening
  closingFrom opening 0 rest

/-- From inside some brackets, the depth never goes below zero, and the bracket
that is found is the closing one. -/
theorem closingFrom_eq (position depth : Nat) (text : List Char) :
    closingFrom position (depth + 1) text =
      .ok ((TypeListCut.untilClosing depth text).2.map fun _ =>
        position + byteLength (TypeListCut.untilClosing depth text).1) := by
  induction text generalizing position depth with
  | nil => rfl
  | cons c rest hypothesis =>
      unfold TypeListCut.untilClosing
      by_cases isOpening : c = '['
      · subst isOpening
        rw [closingFrom, if_pos rfl, hypothesis, if_neg (by decide), if_pos rfl]
        simp only [byteLength_cons, Nat.add_assoc]
      · by_cases isClosing : c = ']'
        · rw [closingFrom, if_neg isOpening, if_pos isClosing, subtract_add,
            ok_bind, if_pos isClosing]
          cases depth with
          | zero => rfl
          | succ depth =>
              rw [if_neg (by simp), hypothesis]
              simp only [byteLength_cons, Nat.add_assoc]
        · rw [closingFrom, if_neg isOpening, if_neg isClosing, hypothesis,
            if_neg isClosing, if_neg isOpening]
          simp only [byteLength_cons, Nat.add_assoc]

theorem matchingBracket_eq
    {before rest inside : List Char}
    {after : Option (List Char)}
    (closes : TypeListCut.untilClosing 0 rest = (inside, after)) :
    matchingBracket (before ++ '[' :: rest) (byteLength before) =
      .ok (after.map fun _ => byteLength before + 1 + byteLength inside) := by
  rw [matchingBracket, partFrom_append, ok_bind, closingFrom, if_pos rfl,
    closingFrom_eq, closes]
  rfl

/-! ## Lists of types -/

/-- A text with the positions of the list of types in it. -/
structure TypeListSplit where
  /-- The word in front of the list. -/
  word : Option Stretch
  /-- What stands between the brackets. -/
  types : Option Stretch
  /-- Where the text goes on. -/
  onward : Nat
  deriving DecidableEq, Repr

/-- The list of types that starts with an opening bracket. -/
def typesFrom
    (text : List Char)
    (word : Option Stretch)
    (opening : Nat) : Except Fault TypeListSplit := do
  let closing ← matchingBracket text opening
  return {
    word
    types := some ⟨opening + 1, closing.getD (byteLength text)⟩
    onward := (closing.map (· + 1)).getD (byteLength text) }

/-- Look for a list of types in front of the second word.  The position counts
the characters that are passed, and a blank behind the first word ends that
word. -/
def splitFrom (text : List Char) (start : Nat) :
    Nat → Option Stretch → Bool → List Char → Except Fault TypeListSplit
  | _, word, _, [] => return ⟨word, none, start⟩
  | position, word, ended, c :: rest =>
    if c = '[' then
      typesFrom text word position
    else if isBlank c then
      splitFrom text start (position + c.utf8Size) word (ended || word.isSome) rest
    else if ended then
      return ⟨word, none, start⟩
    else
      let wordStart := (word.map Stretch.start).getD position
      splitFrom text start (position + c.utf8Size)
        (some ⟨wordStart, position + c.utf8Size⟩) ended rest

/-- The word that a list of types goes with: the one in front of it, or else the
next one. -/
def namingWord
    (text : List Char)
    (split : TypeListSplit) : Except Fault (Option Stretch) :=
  match split.word with
  | some word => return some word
  | none => nextWord text split.onward

/-- Find a list of types in front of the second word from a byte position on. -/
def splitTypeList
    (text : List Char)
    (start : Nat) : Except Fault TypeListSplit := do
  let rest ← partFrom text start
  splitFrom text start start none false rest

/-- The positions of a word that may be left out. -/
def stretch? (before word : List Char) : Option Stretch :=
  if word = [] then none else some (Stretch.ofCutting ⟨before, word⟩)

section Runs

variable (text : List Char)
variable (start : Nat)

/-- Blanks are passed over; they end a word. -/
theorem splitFrom_blanks
    {blanks : List Char}
    (areBlank : ∀ c ∈ blanks, isBlank c = true)
    (position : Nat)
    (word : Option Stretch)
    (ended : Bool)
    (rest : List Char) :
    splitFrom text start position word ended (blanks ++ rest) =
      splitFrom text start (position + byteLength blanks) word
        (ended || (word.isSome && !blanks.isEmpty)) rest := by
  induction blanks generalizing position ended with
  | nil => simp
  | cons c blanks hypothesis =>
      have blank := areBlank c (by simp)
      have notOpening : c ≠ '[' := by
        rintro rfl
        exact absurd blank (by decide)
      have onward := hypothesis
        (fun d member => areBlank d (List.mem_cons_of_mem c member))
        (position + c.utf8Size) (ended || word.isSome)
      rw [List.cons_append, splitFrom, if_neg notOpening, if_pos blank, onward,
        byteLength_cons, Nat.add_assoc]
      cases ended <;> cases word <;> simp

/-- The characters of a word are counted. -/
theorem splitFrom_more
    {word : List Char}
    (areOther : ∀ c ∈ word, isBlank c = false ∧ c ≠ '[')
    (wordStart position : Nat)
    (rest : List Char) :
    splitFrom text start position (some ⟨wordStart, position⟩) false
        (word ++ rest) =
      splitFrom text start (position + byteLength word)
        (some ⟨wordStart, position + byteLength word⟩) false rest := by
  induction word generalizing position with
  | nil => simp
  | cons c word hypothesis =>
      obtain ⟨notBlank, notOpening⟩ := areOther c (by simp)
      have onward := hypothesis
        (fun d member => areOther d (List.mem_cons_of_mem c member))
        (position + c.utf8Size)
      rw [List.cons_append, splitFrom, if_neg notOpening, if_neg (by simp [notBlank]),
        if_neg (by simp)]
      simp only [Option.map_some, Option.getD_some, byteLength_cons]
      rw [onward, Nat.add_assoc]

/-- A word is found from its first character to its last one. -/
theorem splitFrom_word
    {word : List Char}
    (areOther : ∀ c ∈ word, isBlank c = false ∧ c ≠ '[')
    (nonempty : word ≠ [])
    (position : Nat)
    (rest : List Char) :
    splitFrom text start position none false (word ++ rest) =
      splitFrom text start (position + byteLength word)
        (some ⟨position, position + byteLength word⟩) false rest := by
  cases word with
  | nil => exact absurd rfl nonempty
  | cons c word =>
      obtain ⟨notBlank, notOpening⟩ := areOther c (by simp)
      have onward := splitFrom_more text start
        (fun d member => areOther d (List.mem_cons_of_mem c member)) position
        (position + c.utf8Size) rest
      rw [List.cons_append, splitFrom, if_neg notOpening, if_neg (by simp [notBlank]),
        if_neg (by simp)]
      simp only [Option.map_none, Option.getD_none, byteLength_cons]
      rw [onward, Nat.add_assoc]

/-- Blanks, a word and blanks again are passed over. -/
theorem splitFrom_lead
    {blanks word gap : List Char}
    (areBlank : ∀ c ∈ blanks, isBlank c = true)
    (areOther : ∀ c ∈ word, isBlank c = false ∧ c ≠ '[')
    (areGap : ∀ c ∈ gap, isBlank c = true)
    (gapEq : word = [] → gap = [])
    (before rest : List Char) :
    splitFrom text start (byteLength before) none false
        (blanks ++ (word ++ (gap ++ rest))) =
      splitFrom text start (byteLength (before ++ blanks ++ word ++ gap))
        (stretch? (before ++ blanks) word) (!gap.isEmpty) rest := by
  rw [splitFrom_blanks text start areBlank]
  by_cases noWord : word = []
  · rw [noWord, gapEq noWord]
    simp [stretch?]
  · rw [stretch?, if_neg noWord]
    simp only [Option.isSome_none, Bool.false_and, Bool.or_false]
    rw [splitFrom_word text start areOther noWord,
      splitFrom_blanks text start areGap]
    simp only [Stretch.ofCutting, byteLength_append, Option.isSome_some,
      Bool.true_and, Bool.false_or]

end Runs

section Splits

variable {before rest : List Char}

/-- A list of types is found with its word and its brackets. -/
theorem splitTypeList_of_cut
    {cut : TypeListCut}
    (found : TypeListCut.ofChars? rest = some cut)
    (before : List Char) :
    splitTypeList (before ++ rest) (byteLength before) = .ok
      { word := stretch? (before ++ cut.blanks) cut.word
        types := some (Stretch.ofCutting ⟨before ++ cut.lead, cut.inside⟩)
        onward := byteLength (before ++ cut.lead ++ cut.inside) +
          if cut.after.isSome then 1 else 0 } := by
  obtain ⟨hasLead, inner, restEq, closes⟩ :=
    TypeListCut.hasLead_of_ofChars? found
  have front : rest = cut.blanks ++ (cut.word ++ (cut.gap ++ '[' :: inner)) := by
    simp [restEq, TypeListCut.lead]
  have whole : before ++ rest =
      before ++ cut.blanks ++ cut.word ++ cut.gap ++ '[' :: inner := by
    simp [front]
  have opening : byteLength (before ++ cut.blanks ++ cut.word ++ cut.gap) + 1 =
      byteLength (before ++ cut.lead) := by
    simp only [TypeListCut.lead, byteLength_append, byteLength_cons,
      byteLength_nil, show '['.utf8Size = 1 from rfl]
    omega
  have loop := splitFrom_lead (before ++ rest) (byteLength before) hasLead.blanks
    hasLead.word hasLead.gap hasLead.gap_eq_nil before ('[' :: inner)
  rw [← front, splitFrom, if_pos rfl, typesFrom, whole,
    matchingBracket_eq closes, ok_bind, opening, ← whole] at loop
  rw [splitTypeList, partFrom_append, ok_bind, loop]
  have chars := TypeListCut.chars_of_ofChars? found
  cases closed : cut.after with
  | none =>
      have total : byteLength (before ++ rest) =
          byteLength (before ++ cut.lead ++ cut.inside) := by
        rw [chars, closed]
        simp [TypeListCut.closing]
      rw [total]
      simp only [Option.map_none, Option.getD_none, Stretch.ofCutting,
        byteLength_append]
      rfl
  | some after =>
      simp only [Option.map_some, Option.getD_some, Stretch.ofCutting,
        byteLength_append]
      rfl

/-- The word that a list of types goes with, cut out of the text. -/
def namingCutting (before : List Char) (cut : TypeListCut) : Option Cutting :=
  match cut.word, cut.after with
  | [], none => none
  | [], some after =>
    Cutting.firstWord? (before ++ cut.lead ++ cut.inside ++ [']']) after
  | word, _ => some ⟨before ++ cut.blanks, word⟩

theorem isOf_of_namingCutting
    {cut : TypeListCut}
    {cutting : Cutting}
    (named : namingCutting before cut = some cutting) :
    cutting.IsOf
      (before ++ cut.lead ++ cut.inside ++ TypeListCut.closing cut.after) := by
  unfold namingCutting at named
  split at named
  · exact absurd named (by simp)
  · rename_i after _ closed
    have isOf := Cutting.isOf_of_firstWord? named
    rw [closed]
    simpa [TypeListCut.closing] using isOf
  · rename_i word _ nonempty _
    obtain rfl := Option.some.inj named
    exact ⟨cut.gap ++ '[' :: cut.inside ++ TypeListCut.closing cut.after,
      by simp [TypeListCut.lead]⟩

/-- The word that a list of types goes with is found. -/
theorem namingWord_eq
    (before : List Char)
    (cut : TypeListCut)
    (types : Option Stretch) :
    namingWord
        (before ++ cut.lead ++ cut.inside ++ TypeListCut.closing cut.after)
        { word := stretch? (before ++ cut.blanks) cut.word
          types
          onward := byteLength (before ++ cut.lead ++ cut.inside) +
            if cut.after.isSome then 1 else 0 } =
      .ok ((namingCutting before cut).map Stretch.ofCutting) := by
  rw [namingWord, namingCutting]
  cases cut.word with
  | cons c word => rfl
  | nil =>
      cases cut.after with
      | none => exact nextWord_eq (before ++ cut.lead ++ cut.inside) []
      | some after =>
          have behind := nextWord_eq (before ++ cut.lead ++ cut.inside ++ [']'])
            after
          rw [byteLength_append, List.append_assoc] at behind
          exact behind

/-- A text starts with blanks, a word and blanks again.  What follows is an
opening bracket, or the second word, or nothing. -/
theorem exists_lead (text : List Char) :
    ∃ blanks word gap tail, text = blanks ++ (word ++ (gap ++ tail)) ∧
      (∀ c ∈ blanks, isBlank c = true) ∧
      (∀ c ∈ word, isBlank c = false ∧ c ≠ '[') ∧
      (∀ c ∈ gap, isBlank c = true) ∧
      (word = [] → gap = []) ∧
      ∀ c more, tail = c :: more →
        isBlank c = false ∧ (gap = [] → c = '[') := by
  let isOther (c : Char) : Bool := !isBlank c && c != '['
  let behind := (trimStart text).dropWhile isOther
  have blanksEq := leadingBlanks_append_trimStart text
  have wordEq : (trimStart text).takeWhile isOther ++ behind = trimStart text :=
    List.takeWhile_append_dropWhile
  have gapEq := leadingBlanks_append_trimStart behind
  refine ⟨leadingBlanks text, (trimStart text).takeWhile isOther,
    leadingBlanks behind, trimStart behind, ?_, ?_, ?_, ?_, ?_, ?_⟩
  · rw [gapEq, wordEq, blanksEq]
  · exact fun c member => List.mem_takeWhile_imp member
  · intro c member
    simpa [isOther] using List.mem_takeWhile_imp member
  · exact fun c member => List.mem_takeWhile_imp member
  · intro noWord
    rw [noWord, List.nil_append] at wordEq
    rw [wordEq]
    exact takeWhile_eq_nil (startsOutside_dropWhile isBlank text)
  · intro c more tail
    have notBlank := isBlank_eq_false_of_trimStart tail
    refine ⟨notBlank, ?_⟩
    intro noGap
    rw [noGap, List.nil_append, tail] at gapEq
    have head : behind.head? = some c := by
      rw [← gapEq, List.head?_cons]
    have notOther : isOther c = false :=
      startsOutside_dropWhile isOther (trimStart text) c head
    simpa [isOther, notBlank] using notOther

/-- Where no list of types stands in front of the second word, none is found. -/
theorem splitTypeList_of_none
    (missing : TypeListCut.ofChars? rest = none)
    (before : List Char) :
    ∃ word, splitTypeList (before ++ rest) (byteLength before) =
      .ok ⟨word, none, byteLength before⟩ := by
  obtain ⟨blanks, word, gap, tail, front, areBlank, areOther, areGap, gapEq,
    follows⟩ := exists_lead rest
  have loop := splitFrom_lead (before ++ rest) (byteLength before) areBlank
    areOther areGap gapEq before tail
  rw [← front] at loop
  rw [splitTypeList, partFrom_append, ok_bind, loop]
  cases tail with
  | nil => exact ⟨_, rfl⟩
  | cons c more =>
      obtain ⟨notBlank, noGap⟩ := follows c more rfl
      have notOpening : c ≠ '[' := by
        rintro rfl
        let cut : TypeListCut :=
          ⟨blanks, word, gap, (TypeListCut.untilClosing 0 more).1,
            (TypeListCut.untilClosing 0 more).2⟩
        have found : TypeListCut.ofChars? (cut.lead ++ more) = some cut :=
          TypeListCut.ofChars?_of_hasLead
            ⟨areBlank, areOther, areGap, gapEq⟩ rfl
        have whole : rest = cut.lead ++ more := by
          simp [front, cut, TypeListCut.lead]
        rw [whole, found] at missing
        exact absurd missing (by simp)
      have ended : gap.isEmpty = false := by
        cases gap with
        | nil => exact absurd (noGap rfl) notOpening
        | cons => rfl
      rw [splitFrom, if_neg notOpening, if_neg (by simp [notBlank]), ended]
      exact ⟨_, rfl⟩

end Splits

end Checked
end DocLint
