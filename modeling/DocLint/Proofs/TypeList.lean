import DocLint.Proofs.CharClass
import DocLint.Proofs.Words

/-!
# Where the types of a tag stand in its body

The text of a body is cut around its list of types: some blanks and words with
the opening bracket, the text between the brackets, and the rest from the
closing bracket on.  The cut does not depend on the text between the brackets,
as long as that text has no square brackets of its own, so another text can be
put in its place.
-/

namespace DocLint

open Text

/-! ## The text between the brackets -/

namespace TypeListCut

/-- The rest of a text from its closing bracket on; nothing if there is none. -/
def closing : Option (List Char) → List Char
  | none => []
  | some rest => ']' :: rest

theorem untilClosing_append
    (depth : Nat)
    (text : List Char) :
    (untilClosing depth text).1 ++ closing (untilClosing depth text).2 =
      text := by
  induction text generalizing depth with
  | nil => rfl
  | cons c rest hypothesis =>
      unfold untilClosing
      dsimp only
      split
      · rename_i isClosing
        cases depth with
        | zero => rw [isClosing, closing, List.nil_append]
        | succ depth => rw [List.cons_append, hypothesis depth]
      · split
        · rw [List.cons_append, hypothesis (depth + 1)]
        · rw [List.cons_append, hypothesis depth]

/-- A text without square brackets is all that stands before the closing
bracket, or before the end. -/
theorem untilClosing_of_no_brackets
    {inside : List Char}
    (noBrackets : ∀ c ∈ inside, c ≠ '[' ∧ c ≠ ']')
    (after : Option (List Char)) :
    untilClosing 0 (inside ++ closing after) = (inside, after) := by
  induction inside with
  | nil => cases after <;> simp [untilClosing, closing]
  | cons c rest hypothesis =>
      obtain ⟨notOpening, notClosing⟩ := noBrackets c (by simp)
      have read := hypothesis fun d member => noBrackets d (by simp [member])
      rw [List.cons_append, untilClosing, if_neg notClosing, if_neg notOpening,
        read]

/-! ## The text in front of the brackets -/

/-- The parts of a cut up to its opening bracket are blanks, a word and blanks
again. -/
structure HasLead (cut : TypeListCut) : Prop where
  blanks : ∀ c ∈ cut.blanks, isBlank c = true
  word : ∀ c ∈ cut.word, isBlank c = false ∧ c ≠ '['
  gap : ∀ c ∈ cut.gap, isBlank c = true
  gap_eq_nil : cut.word = [] → cut.gap = []

theorem isBlank_opening : isBlank '[' = false := by
  decide

theorem ofChars?_of_hasLead
    {cut : TypeListCut}
    (hasLead : HasLead cut)
    {rest : List Char}
    (closes : untilClosing 0 rest = (cut.inside, cut.after)) :
    ofChars? (cut.lead ++ rest) = some cut := by
  have gapOutside : StartsOutside isBlank ('[' :: rest) :=
    startsOutside_cons isBlank_opening rest
  have wordOutside : StartsOutside (fun c => !isBlank c && c != '[')
      (cut.gap ++ '[' :: rest) := by
    cases gapEq : cut.gap with
    | nil => exact startsOutside_cons (by simp) rest
    | cons c more =>
        have blank := hasLead.gap c (by simp [gapEq])
        exact startsOutside_cons (by simp [blank]) _
  have blanksOutside : StartsOutside isBlank
      (cut.word ++ (cut.gap ++ '[' :: rest)) := by
    cases wordEq : cut.word with
    | nil =>
        rw [hasLead.gap_eq_nil wordEq]
        exact gapOutside
    | cons c more =>
        exact startsOutside_cons (hasLead.word c (by simp [wordEq])).1 _
  have wordInside : ∀ c ∈ cut.word, (!isBlank c && c != '[') = true := by
    intro c member
    obtain ⟨notBlank, notOpening⟩ := hasLead.word c member
    simp [notBlank, notOpening]
  have text : cut.lead ++ rest =
      cut.blanks ++ (cut.word ++ (cut.gap ++ '[' :: rest)) := by
    simp [lead]
  rw [ofChars?, text]
  simp only [trimStart, leadingBlanks,
    dropWhile_append hasLead.blanks blanksOutside,
    takeWhile_append hasLead.blanks blanksOutside,
    dropWhile_append wordInside wordOutside,
    takeWhile_append wordInside wordOutside,
    dropWhile_append hasLead.gap gapOutside,
    takeWhile_append hasLead.gap gapOutside, closes]

theorem hasLead_of_ofChars?
    {text : List Char}
    {cut : TypeListCut}
    (found : ofChars? text = some cut) :
    HasLead cut ∧ ∃ rest, text = cut.lead ++ rest ∧
      untilClosing 0 rest = (cut.inside, cut.after) := by
  unfold ofChars? at found
  dsimp only at found
  split at found
  · rename_i rest behindGap
    cases found
    refine ⟨⟨?_, ?_, ?_, ?_⟩, rest, ?_, rfl⟩
    · intro c member
      exact List.mem_takeWhile_imp member
    · intro c member
      simpa using List.mem_takeWhile_imp member
    · intro c member
      exact List.mem_takeWhile_imp member
    · intro noWord
      -- Without a word nothing but the blanks is skipped.
      have behindWord := List.takeWhile_append_dropWhile
        (p := fun c => !isBlank c && c != '[') (l := trimStart text)
      dsimp only at noWord ⊢
      rw [noWord, List.nil_append] at behindWord
      rw [behindWord]
      exact takeWhile_eq_nil (startsOutside_dropWhile isBlank text)
    · have gap := leadingBlanks_append_trimStart
        ((trimStart text).dropWhile fun c => !isBlank c && c != '[')
      rw [behindGap] at gap
      simp only [lead, List.append_assoc, List.cons_append, List.nil_append,
        gap, List.takeWhile_append_dropWhile, leadingBlanks_append_trimStart]
  · exact absurd found (by simp)

/-- A cut keeps every character of its text. -/
theorem chars_of_ofChars?
    {text : List Char}
    {cut : TypeListCut}
    (found : ofChars? text = some cut) :
    text = cut.lead ++ cut.inside ++ closing cut.after := by
  obtain ⟨_, rest, rfl, closes⟩ := hasLead_of_ofChars? found
  have whole := untilClosing_append 0 rest
  rw [closes] at whole
  rw [List.append_assoc, whole]

/-- Another text without brackets can be put between the brackets. -/
theorem ofChars?_replace
    {text : List Char}
    {cut : TypeListCut}
    (found : ofChars? text = some cut)
    {inside : List Char}
    (noBrackets : ∀ c ∈ inside, c ≠ '[' ∧ c ≠ ']') :
    ofChars? (cut.lead ++ inside ++ closing cut.after) =
      some { cut with inside := inside } := by
  obtain ⟨hasLead, _⟩ := hasLead_of_ofChars? found
  have moved : HasLead { cut with inside := inside } :=
    ⟨hasLead.blanks, hasLead.word, hasLead.gap, hasLead.gap_eq_nil⟩
  rw [List.append_assoc]
  exact ofChars?_of_hasLead moved
    (untilClosing_of_no_brackets noBrackets cut.after)

end TypeListCut

/-! ## The types of a tag -/

namespace TagKind

/-- Where the types stand in the text of a tag: what is read before the text is
cut, and the cut. -/
def typesCut? (text : List Char) : TagKind → Option (List Char × TypeListCut)
  | .param | .yieldParam =>
      (TypeListCut.ofChars? text).map fun cut => ([], cut)
  | .option =>
      match Cutting.firstWord? [] text with
      | none => none
      | some word =>
          if word.text.head? = some '[' then none
          else
            (TypeListCut.ofChars? (afterWord (trimStart text))).map fun cut =>
              (word.before ++ word.text, cut)
  | .returns | .raise | .yieldReturn =>
      match TypeListCut.ofChars? text with
      | none => none
      | some cut => if cut.word = [] then some ([], cut) else none
  | .reference | .overload | .other => none

end TagKind

theorem TagFields.types_typesAndName
    (body : Body)
    (before rest : List Char) :
    (typesAndName body before rest).types =
      (TypeListCut.ofChars? rest).map fun cut =>
        body.textAt (before ++ cut.lead) cut.inside := by
  unfold typesAndName
  dsimp only
  split
  · rename_i cut found
    rw [found]
    rfl
  · rename_i found
    rw [found]
    rfl

theorem TagFields.types_option
    (body : Body) :
    (option body).types =
      (TagKind.option.typesCut? body.chars).map fun cut =>
        body.textAt (cut.1 ++ cut.2.lead) cut.2.inside := by
  unfold option TagKind.typesCut?
  dsimp only
  cases Cutting.firstWord? [] body.chars with
  | none => rfl
  | some word =>
      dsimp only
      by_cases opens : word.text.head? = some '['
      · rw [if_pos opens, if_pos opens]
        rfl
      · rw [if_neg opens, if_neg opens, types_typesAndName, Option.map_map]
        rfl

theorem TagFields.types_typesOnly
    (body : Body) :
    (typesOnly body).types =
      (TagKind.returns.typesCut? body.chars).map fun cut =>
        body.textAt (cut.1 ++ cut.2.lead) cut.2.inside := by
  unfold typesOnly TagKind.typesCut?
  dsimp only
  cases TypeListCut.ofChars? body.chars with
  | none => rfl
  | some cut =>
      obtain ⟨blanks, word, gap, inside, after⟩ := cut
      cases word with
      | nil => simp [TypeListCut.lead]
      | cons c more => rfl

/-- A tag has types exactly if it is no reference and there are brackets where
its kind has them; the types are then the text between the brackets. -/
theorem Tag.types_ofBody_eq_some_iff
    {index : Nat}
    {directive : String}
    {body : Body}
    {types : TagText} :
    (ofBody index directive body).types = some types ↔
      Cutting.reference? body.chars = none ∧
        ∃ before cut,
          (TagKind.ofDirective directive).typesCut? body.chars =
            some (before, cut) ∧
          body.textAt (before ++ cut.lead) cut.inside = types := by
  unfold ofBody
  cases Cutting.reference? body.chars with
  | some name => simp
  | none =>
      apply Iff.trans
        (b := ((TagKind.ofDirective directive).typesCut? body.chars).map
          (fun cut => body.textAt (cut.1 ++ cut.2.lead) cut.2.inside) =
            some types)
      · apply Eq.congr_left
        dsimp only
        generalize TagKind.ofDirective directive = kind
        cases kind with
        | param =>
            rw [TagFields.types_typesAndName, TagKind.typesCut?, Option.map_map]
            rfl
        | yieldParam =>
            rw [TagFields.types_typesAndName, TagKind.typesCut?, Option.map_map]
            rfl
        | option => exact TagFields.types_option body
        | returns => exact TagFields.types_typesOnly body
        | raise => exact TagFields.types_typesOnly body
        | yieldReturn => exact TagFields.types_typesOnly body
        | reference => rfl
        | overload => rfl
        | other => rfl
      · rw [Option.map_eq_some_iff]
        simp only [true_and, Prod.exists]

/-! ## Exchanging the types -/

namespace TagKind

/-- A text with a first word is cut behind that word. -/
theorem typesCut?_option_append
    {blanks word rest : List Char}
    (isWordCut : IsWordCut blanks word rest)
    (notOpening : word.head? ≠ some '[') :
    TagKind.option.typesCut? (blanks ++ (word ++ rest)) =
      (TypeListCut.ofChars? rest).map fun cut => (blanks ++ word, cut) := by
  rw [typesCut?, isWordCut.firstWord?_eq, isWordCut.trimStart_eq,
    isWordCut.afterWord_eq]
  exact if_neg notOpening

/-- The first word that stands in front of the types of an option. -/
theorem exists_word_of_typesCut?_option
    {text before : List Char}
    {cut : TypeListCut}
    (found : TagKind.option.typesCut? text = some (before, cut)) :
    ∃ blanks word rest, text = blanks ++ (word ++ rest) ∧
      before = blanks ++ word ∧
      IsWordCut blanks word rest ∧ word.head? ≠ some '[' ∧
      TypeListCut.ofChars? rest = some cut := by
  rcases blank_or_isWordCut text with allBlank | isCut
  · rw [typesCut?, firstWord?_of_blank allBlank] at found
    exact absurd found (by simp)
  · obtain ⟨blanks, word, rest, rfl, isWordCut⟩ := isCut
    by_cases opens : word.head? = some '['
    · rw [typesCut?, isWordCut.firstWord?_eq] at found
      dsimp only at found
      rw [if_pos opens] at found
      exact absurd found (by simp)
    · rw [typesCut?_option_append isWordCut opens] at found
      obtain ⟨other, cutFound, pair⟩ := Option.map_eq_some_iff.mp found
      obtain ⟨rfl, rfl⟩ := Prod.mk.inj pair
      exact ⟨blanks, word, rest, rfl, rfl, isWordCut, opens, cutFound⟩

theorem typesCut?_of_named
    {kind : TagKind}
    (isNamed : kind = .param ∨ kind = .yieldParam)
    (text : List Char) :
    kind.typesCut? text =
      (TypeListCut.ofChars? text).map fun cut => ([], cut) := by
  rcases isNamed with rfl | rfl <;> rfl

theorem typesCut?_of_unnamed
    {kind : TagKind}
    (isUnnamed : kind = .returns ∨ kind = .raise ∨ kind = .yieldReturn)
    {text before : List Char}
    {cut : TypeListCut} :
    kind.typesCut? text = some (before, cut) ↔
      TypeListCut.ofChars? text = some cut ∧ cut.word = [] ∧ before = [] := by
  have read : kind.typesCut? text =
      match TypeListCut.ofChars? text with
      | none => none
      | some cut => if cut.word = [] then some ([], cut) else none := by
    rcases isUnnamed with rfl | rfl | rfl <;> rfl
  rw [read]
  cases TypeListCut.ofChars? text with
  | none => simp
  | some other =>
      dsimp only
      split
      · rename_i noWord
        constructor
        · rintro ⟨⟩
          exact ⟨rfl, noWord, rfl⟩
        · rintro ⟨⟨⟩, _, rfl⟩
          rfl
      · rename_i hasWord
        constructor
        · exact fun absent => absurd absent (by simp)
        · rintro ⟨⟨⟩, noWord, _⟩
          exact absurd noWord hasWord

/-- A kind has its types behind a name, behind the first word, or alone. -/
theorem typesCut?_cases
    {kind : TagKind}
    {text before : List Char}
    {cut : TypeListCut}
    (found : kind.typesCut? text = some (before, cut)) :
    (kind = .param ∨ kind = .yieldParam) ∨ kind = .option ∨
      (kind = .returns ∨ kind = .raise ∨ kind = .yieldReturn) := by
  cases kind with
  | reference => exact absurd found (by simp [typesCut?])
  | overload => exact absurd found (by simp [typesCut?])
  | other => exact absurd found (by simp [typesCut?])
  | _ => simp

theorem isTyped_of_typesCut?
    {kind : TagKind}
    {text before : List Char}
    {cut : TypeListCut}
    (found : kind.typesCut? text = some (before, cut)) :
    kind.isTyped = true := by
  rcases typesCut?_cases found with (rfl | rfl) | rfl | rfl | rfl | rfl <;> rfl

/-- The cut at the types keeps every character of the text. -/
theorem chars_of_typesCut?
    {kind : TagKind}
    {text before : List Char}
    {cut : TypeListCut}
    (found : kind.typesCut? text = some (before, cut)) :
    text = before ++ cut.lead ++ cut.inside ++
      TypeListCut.closing cut.after := by
  rcases typesCut?_cases found with isNamed | rfl | isUnnamed
  · rw [typesCut?_of_named isNamed] at found
    obtain ⟨other, cutFound, pair⟩ := Option.map_eq_some_iff.mp found
    obtain ⟨rfl, rfl⟩ := Prod.mk.inj pair
    exact TypeListCut.chars_of_ofChars? cutFound
  · obtain ⟨blanks, word, rest, rfl, rfl, _, _, cutFound⟩ :=
      exists_word_of_typesCut?_option found
    rw [TypeListCut.chars_of_ofChars? cutFound]
    simp
  · obtain ⟨cutFound, _, rfl⟩ := (typesCut?_of_unnamed isUnnamed).mp found
    exact TypeListCut.chars_of_ofChars? cutFound

/-- The cut at the types stays where it is when another text without brackets is
put between the brackets. -/
theorem typesCut?_replace
    {kind : TagKind}
    {text before : List Char}
    {cut : TypeListCut}
    (found : kind.typesCut? text = some (before, cut))
    {inside : List Char}
    (noBrackets : ∀ c ∈ inside, c ≠ '[' ∧ c ≠ ']') :
    kind.typesCut? (before ++ cut.lead ++ inside ++
        TypeListCut.closing cut.after) =
      some (before, { cut with inside := inside }) := by
  rcases typesCut?_cases found with isNamed | rfl | isUnnamed
  · rw [typesCut?_of_named isNamed] at found
    obtain ⟨other, cutFound, pair⟩ := Option.map_eq_some_iff.mp found
    obtain ⟨rfl, rfl⟩ := Prod.mk.inj pair
    rw [typesCut?_of_named isNamed, List.nil_append,
      TypeListCut.ofChars?_replace cutFound noBrackets]
    rfl
  · obtain ⟨blanks, word, rest, rfl, rfl, isWordCut, notOpening, cutFound⟩ :=
      exists_word_of_typesCut?_option found
    -- The text still goes on behind the word with the same character.
    have apartStill : StartsOutside (fun c => !isBlank c)
        (cut.lead ++ inside ++ TypeListCut.closing cut.after) := by
      have apart := isWordCut.apart
      rw [TypeListCut.chars_of_ofChars? cutFound] at apart
      intro c head
      apply apart c
      cases leadEq : cut.lead with
      | nil => exact absurd leadEq (by simp [TypeListCut.lead])
      | cons d more =>
          rw [leadEq] at head
          exact head
    have split := typesCut?_option_append
      { isWordCut with apart := apartStill } notOpening
    rw [TypeListCut.ofChars?_replace cutFound noBrackets] at split
    rw [← List.append_assoc] at split
    rw [List.append_assoc (blanks ++ word), List.append_assoc (blanks ++ word)]
    exact split
  · obtain ⟨cutFound, noWord, rfl⟩ := (typesCut?_of_unnamed isUnnamed).mp found
    rw [typesCut?_of_unnamed isUnnamed, List.nil_append]
    exact ⟨TypeListCut.ofChars?_replace cutFound noBrackets, noWord, rfl⟩

end TagKind

/-! ## The tag itself -/

@[simp]
theorem Tag.lineIndex_ofBody
    (index : Nat)
    (directive : String)
    (body : Body) :
    (ofBody index directive body).lineIndex = index := by
  unfold ofBody
  split <;> rfl

@[simp]
theorem Tag.directive_ofBody
    (index : Nat)
    (directive : String)
    (body : Body) :
    (ofBody index directive body).directive = directive := by
  unfold ofBody
  split <;> rfl

/-- A tag that has types is of a kind that has them. -/
theorem Tag.isTyped_of_types
    {index : Nat}
    {directive : String}
    {body : Body}
    {types : TagText}
    (hasTypes : (ofBody index directive body).types = some types) :
    (ofBody index directive body).kind.isTyped = true := by
  obtain ⟨noReference, before, cut, found, _⟩ :=
    types_ofBody_eq_some_iff.mp hasTypes
  unfold ofBody
  rw [noReference]
  exact TagKind.isTyped_of_typesCut? found

end DocLint
