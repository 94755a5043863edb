import DocLint.Proofs.Boundaries
import DocLint.Tag.Reader

/-!
# Words of a text

The words of a text are told without reading it from the front: the text is
split at every blank, and the parts that are not empty are its words.  A text is
cut at its first word exactly by the blanks, the word and the rest that start
outside of each other's class.
-/

namespace DocLint
namespace Text

/-- The words of a text: what stands between its blanks. -/
def words (text : List Char) : List (List Char) :=
  (text.splitOnP isBlank).filter fun part => !part.isEmpty

/-- A text is cut at its first word. -/
structure IsWordCut (blanks word rest : List Char) : Prop where
  allBlank : ∀ c ∈ blanks, isBlank c = true
  notBlank : ∀ c ∈ word, isBlank c = false
  nonempty : word ≠ []
  apart : StartsOutside (fun c => !isBlank c) rest

/-! ## Splitting at blanks -/

theorem words_append_blank
    (front rest : List Char)
    {c : Char}
    (blank : isBlank c = true) :
    words (front ++ c :: rest) = words front ++ words rest := by
  rw [words, List.splitOnP_append_cons front rest blank, List.filter_append]
  rfl

theorem words_append_of_blank
    {blanks : List Char}
    (allBlank : ∀ c ∈ blanks, isBlank c = true)
    (rest : List Char) :
    words (blanks ++ rest) = words rest := by
  induction blanks with
  | nil => rfl
  | cons c more hypothesis =>
      obtain ⟨blank, moreBlank⟩ := List.forall_mem_cons.mp allBlank
      have apart := words_append_blank [] (more ++ rest) blank
      rw [List.nil_append] at apart
      rw [List.cons_append, apart, hypothesis moreBlank]
      rfl

theorem words_of_blank
    {blanks : List Char}
    (allBlank : ∀ c ∈ blanks, isBlank c = true) :
    words blanks = [] := by
  have only := words_append_of_blank allBlank []
  rwa [List.append_nil] at only

/-! ## Blanks around a text -/

theorem trimStart_append
    {rest : List Char}
    (front : List Char)
    (notBlank : StartsOutside isBlank rest) :
    trimStart (front ++ rest) = trimStart front ++ rest := by
  induction front with
  | nil =>
      have nothing : ∀ c ∈ ([] : List Char), isBlank c = true :=
        fun c member => absurd member List.not_mem_nil
      exact dropWhile_append nothing notBlank
  | cons c more hypothesis =>
      unfold trimStart at hypothesis ⊢
      cases blank : isBlank c with
      | true => simpa [blank] using hypothesis
      | false => simp [blank]

theorem trimEnd_append
    {front : List Char}
    (notBlank : StartsOutside isBlank front.reverse)
    (rest : List Char) :
    trimEnd (front ++ rest) = front ++ trimEnd rest := by
  have reversed := trimStart_append rest.reverse notBlank
  rw [trimStart, trimStart] at reversed
  rw [trimEnd, trimEnd, List.reverse_append, reversed, List.reverse_append,
    List.reverse_reverse]

theorem trimEnd_of_blank
    {blanks : List Char}
    (allBlank : ∀ c ∈ blanks, isBlank c = true) :
    trimEnd blanks = [] := by
  rw [trimEnd, List.dropWhile_eq_nil_iff.mpr (by simpa using allBlank)]
  rfl

theorem trim_eq_self
    {text : List Char}
    (front : StartsOutside isBlank text)
    (back : StartsOutside isBlank text.reverse) :
    trim text = text := by
  have noFront := trimStart_append [] front
  have noBack := trimEnd_append back []
  rw [List.nil_append] at noFront
  rw [List.append_nil] at noBack
  rw [trim, noFront, trimStart, List.dropWhile_nil, List.nil_append, noBack,
    trimEnd_of_blank (by simp), List.append_nil]

/-- What is left of a text without the blanks around it is a part of the text,
and all else are blanks. -/
theorem exists_append_trim (text : List Char) :
    ∃ gap rest, text = gap ++ (trim text ++ rest) ∧
      ∀ c ∈ gap ++ rest, isBlank c = true := by
  have front := leadingBlanks_append_trimStart text
  have back : (trimStart text).reverse.takeWhile isBlank ++
      (trimStart text).reverse.dropWhile isBlank = (trimStart text).reverse :=
    List.takeWhile_append_dropWhile
  refine ⟨leadingBlanks text,
    ((trimStart text).reverse.takeWhile isBlank).reverse, ?_, ?_⟩
  · rw [trim, trimEnd, ← List.reverse_append, back, List.reverse_reverse, front]
  · intro c member
    rcases List.mem_append.mp member with inFront | inBack
    · exact List.mem_takeWhile_imp inFront
    · exact List.mem_takeWhile_imp (List.mem_reverse.mp inBack)

/-! ## The first word -/

namespace IsWordCut

variable {blanks word rest : List Char}

theorem startsOutside_append
    (isWordCut : IsWordCut blanks word rest) :
    StartsOutside isBlank (word ++ rest) := by
  cases word with
  | nil => exact absurd rfl isWordCut.nonempty
  | cons first more =>
      exact startsOutside_cons (isWordCut.notBlank first List.mem_cons_self) _

theorem trimStart_eq
    (isWordCut : IsWordCut blanks word rest) :
    trimStart (blanks ++ (word ++ rest)) = word ++ rest :=
  dropWhile_append isWordCut.allBlank isWordCut.startsOutside_append

theorem leadingBlanks_eq
    (isWordCut : IsWordCut blanks word rest) :
    leadingBlanks (blanks ++ (word ++ rest)) = blanks :=
  takeWhile_append isWordCut.allBlank isWordCut.startsOutside_append

theorem inside
    (isWordCut : IsWordCut blanks word rest) :
    ∀ c ∈ word, (!isBlank c) = true := by
  intro c member
  rw [isWordCut.notBlank c member, Bool.not_false]

theorem leadingWord_eq
    (isWordCut : IsWordCut blanks word rest) :
    leadingWord (word ++ rest) = word :=
  takeWhile_append isWordCut.inside isWordCut.apart

theorem afterWord_eq
    (isWordCut : IsWordCut blanks word rest) :
    afterWord (word ++ rest) = rest :=
  dropWhile_append isWordCut.inside isWordCut.apart

theorem firstWord?_eq
    (isWordCut : IsWordCut blanks word rest)
    (before : List Char) :
    Cutting.firstWord? before (blanks ++ (word ++ rest)) =
      some ⟨before ++ blanks, word⟩ := by
  rw [Cutting.firstWord?, isWordCut.trimStart_eq, isWordCut.leadingWord_eq,
    isWordCut.leadingBlanks_eq]
  split
  · exact absurd rfl isWordCut.nonempty
  · rfl

theorem words_eq
    (isWordCut : IsWordCut blanks word rest) :
    words (blanks ++ (word ++ rest)) = word :: words rest := by
  have alone : words word = [word] := by
    rw [words, List.splitOnP_eq_singleton isWordCut.notBlank,
      List.filter_cons_of_pos (by simp [isWordCut.nonempty]), List.filter_nil]
  rw [words_append_of_blank isWordCut.allBlank]
  cases rest with
  | nil => rw [List.append_nil, alone]; rfl
  | cons c more =>
      have blank : isBlank c = true := by simpa using isWordCut.apart c rfl
      have behind := words_append_of_blank
        (List.forall_mem_singleton.mpr blank) more
      rw [words_append_blank word more blank, alone, ← behind]
      rfl

end IsWordCut

/-- A text is blank, or it is cut at its first word. -/
theorem blank_or_isWordCut (text : List Char) :
    (∀ c ∈ text, isBlank c = true) ∨
      ∃ blanks word rest, text = blanks ++ (word ++ rest) ∧
        IsWordCut blanks word rest := by
  by_cases allBlank : ∀ c ∈ text, isBlank c = true
  · exact Or.inl allBlank
  · right
    have whole : leadingBlanks text ++ (leadingWord (trimStart text) ++
        afterWord (trimStart text)) = text := by
      rw [leadingWord_append_afterWord, leadingBlanks_append_trimStart]
    refine ⟨_, _, _, whole.symm, ?_, ?_, ?_, ?_⟩
    · exact fun c => List.mem_takeWhile_imp
    · intro c member
      simpa using List.mem_takeWhile_imp member
    · intro noWord
      apply allBlank
      have atEnd : trimStart text = [] := by
        cases trimmed : trimStart text with
        | nil => rfl
        | cons c more =>
            have notBlank := startsOutside_dropWhile isBlank text c
              (by rw [← trimStart, trimmed]; rfl)
            rw [trimmed, leadingWord,
              List.takeWhile_cons_of_pos (by simp [notBlank])] at noWord
            exact absurd noWord (by simp)
      exact List.dropWhile_eq_nil_iff.mp atEnd
    · exact startsOutside_dropWhile _ _

theorem words_eq_nil_iff
    {text : List Char} :
    words text = [] ↔ ∀ c ∈ text, isBlank c = true := by
  constructor
  · intro noWords
    rcases blank_or_isWordCut text with allBlank | cut
    · exact allBlank
    · obtain ⟨blanks, word, rest, rfl, isWordCut⟩ := cut
      rw [isWordCut.words_eq] at noWords
      exact absurd noWords (by simp)
  · exact words_of_blank

theorem firstWord?_of_blank
    {text : List Char}
    (allBlank : ∀ c ∈ text, isBlank c = true)
    (before : List Char) :
    Cutting.firstWord? before text = none := by
  have trimmed : trimStart text = [] := List.dropWhile_eq_nil_iff.mpr allBlank
  rw [Cutting.firstWord?, trimmed]
  rfl

/-- What is cut off as the first word is the first of the words. -/
theorem map_text_firstWord?
    (before text : List Char) :
    (Cutting.firstWord? before text).map Cutting.text =
      (words text).head? := by
  rcases blank_or_isWordCut text with allBlank | cut
  · rw [firstWord?_of_blank allBlank, words_of_blank allBlank]
    rfl
  · obtain ⟨blanks, word, rest, rfl, isWordCut⟩ := cut
    rw [isWordCut.firstWord?_eq, isWordCut.words_eq]
    rfl

end Text
end DocLint
