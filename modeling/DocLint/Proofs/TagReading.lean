import DocLint.Proofs.GeneratedTags
import DocLint.Proofs.CorrectionSpan
import DocLint.Proofs.TagExtraction

/-!
# How types and names are read

What is read from a tag is told from the words and the square brackets of its
text.  There are types where a square bracket is opened behind one word at most;
they go on to the bracket that closes it, or to the end.  The name is the word
in front of the brackets, or else the first one behind them; without types it is
the first word of all.
-/

namespace DocLint

open Text

/-! ## Nested brackets -/

/-- The square brackets of a text are nested: each one that is closed was opened
in front, and none is left open. -/
structure NestsBrackets (text : List Char) : Prop where
  opened : ∀ front, front <+: text → front.count ']' ≤ front.count '['
  closed : text.count ']' = text.count '['

theorem forall_prefix_cons
    {c : Char}
    {text : List Char}
    {holds : List Char → Prop}
    (empty : holds []) :
    (∀ front, front <+: c :: text → holds front) ↔
      ∀ front, front <+: text → holds (c :: front) := by
  constructor
  · intro all front isPrefix
    exact all (c :: front) ((List.prefix_cons_inj c).mpr isPrefix)
  · intro further front isPrefix
    rcases List.prefix_cons_iff.mp isPrefix with rfl | ⟨rest, rfl, inText⟩
    · exact empty
    · exact further rest inText

namespace TypeListCut

/-- A text keeps within `depth` open brackets if each part in front closes no
more than these and its own. -/
theorem depthAfter?_eq_some_iff
    {depth inner : Nat}
    {text : List Char} :
    depthAfter? depth text = some inner ↔
      (∀ front, front <+: text →
        front.count ']' ≤ depth + front.count '[') ∧
      inner + text.count ']' = depth + text.count '[' := by
  induction text generalizing depth with
  | nil => simp [depthAfter?, eq_comm]
  | cons c text hypothesis =>
      rw [forall_prefix_cons (by simp)]
      unfold depthAfter?
      by_cases closes : c = ']'
      · subst closes
        have counts (front : List Char) :
            (']' :: front).count ']' = front.count ']' + 1 ∧
              (']' :: front).count '[' = front.count '[' := by
          simp
        simp only [counts, if_true]
        cases depth with
        | zero =>
            simp only [reduceCtorEq, false_iff, not_and]
            intro opened
            exact absurd (opened [] List.nil_prefix) (by simp)
        | succ depth =>
            dsimp only
            rw [hypothesis]
            refine and_congr (forall₂_congr fun front _ => ?_) ?_ <;> omega
      · rw [if_neg closes]
        by_cases opens : c = '['
        · subst opens
          have counts (front : List Char) :
              ('[' :: front).count ']' = front.count ']' ∧
                ('[' :: front).count '[' = front.count '[' + 1 := by
            simp
          simp only [counts, if_true]
          rw [hypothesis]
          refine and_congr (forall₂_congr fun front _ => ?_) ?_ <;> omega
        · rw [if_neg opens, hypothesis]
          simp only [List.count_cons_of_ne closes, List.count_cons_of_ne opens]

theorem isBalanced_iff
    {text : List Char} :
    IsBalanced text ↔ NestsBrackets text := by
  rw [IsBalanced, depthAfter?_eq_some_iff]
  simp only [Nat.zero_add]
  exact ⟨fun ⟨opened, closed⟩ => ⟨opened, closed⟩,
    fun ⟨opened, closed⟩ => ⟨opened, closed⟩⟩

/-- What stands in front of the closing bracket closes the brackets that are
open. -/
theorem depthAfter?_of_untilClosing
    {depth : Nat}
    {text inside after : List Char}
    (closes : untilClosing depth text = (inside, some after)) :
    depthAfter? depth inside = some 0 := by
  induction text generalizing depth inside with
  | nil => exact absurd closes (by simp [untilClosing])
  | cons c text hypothesis =>
      have behind {inner : Nat}
          (found : (c :: (untilClosing inner text).1,
            (untilClosing inner text).2) = (inside, some after)) :
          ∃ more, inside = c :: more ∧ depthAfter? inner more = some 0 := by
        obtain ⟨rfl, afterEq⟩ := Prod.mk.inj found
        exact ⟨_, rfl, hypothesis (Prod.ext rfl afterEq)⟩
      unfold untilClosing at closes
      dsimp only at closes
      by_cases isClosing : c = ']'
      · rw [if_pos isClosing] at closes
        cases depth with
        | zero =>
            obtain ⟨rfl, _⟩ := Prod.mk.inj closes
            rfl
        | succ depth =>
            obtain ⟨more, rfl, read⟩ := behind closes
            rwa [depthAfter?, if_pos isClosing]
      · rw [if_neg isClosing] at closes
        by_cases isOpening : c = '['
        · rw [if_pos isOpening] at closes
          obtain ⟨more, rfl, read⟩ := behind closes
          unfold depthAfter?
          rwa [if_neg isClosing, if_pos isOpening]
        · rw [if_neg isOpening] at closes
          obtain ⟨more, rfl, read⟩ := behind closes
          unfold depthAfter?
          rwa [if_neg isClosing, if_neg isOpening]

/-- The closing bracket is the one behind a text with nested brackets. -/
theorem untilClosing_eq_some_iff
    {text inside after : List Char} :
    untilClosing 0 text = (inside, some after) ↔
      text = inside ++ ']' :: after ∧ NestsBrackets inside := by
  rw [← isBalanced_iff]
  constructor
  · intro closes
    have whole := untilClosing_append 0 text
    rw [closes] at whole
    exact ⟨whole.symm, depthAfter?_of_untilClosing closes⟩
  · rintro ⟨rfl, balanced⟩
    exact untilClosing_of_isBalanced balanced after

/-- Without such a bracket the types go on to the end. -/
theorem untilClosing_eq_none_iff
    {text inside : List Char} :
    untilClosing 0 text = (inside, none) ↔
      inside = text ∧ ∀ types after, text = types ++ ']' :: after →
        ¬ NestsBrackets types := by
  constructor
  · intro unclosed
    have whole := untilClosing_append 0 text
    rw [unclosed] at whole
    refine ⟨(List.append_nil inside).symm.trans whole, ?_⟩
    intro types after textEq nests
    have closes := untilClosing_eq_some_iff.mpr ⟨textEq, nests⟩
    rw [unclosed] at closes
    exact absurd (Prod.mk.inj closes).2 (by simp)
  · rintro ⟨rfl, noneCloses⟩
    cases found : untilClosing 0 inside with
    | mk types rest =>
        cases rest with
        | none =>
            have whole := untilClosing_append 0 inside
            rw [found, closing, List.append_nil] at whole
            exact congrArg (·, none) whole
        | some after =>
            obtain ⟨textEq, nests⟩ := untilClosing_eq_some_iff.mp found
            exact absurd nests (noneCloses types after textEq)

end TypeListCut

/-! ## What is documented -/

/-- A word as a name: without one comma or colon at its end, unless that is all
of it. -/
def trimmedName (word : List Char) : List Char :=
  if 1 < word.length ∧
      (word.getLast? = some ',' ∨ word.getLast? = some ':') then
    word.dropLast
  else word

/-- A text has types if there is a square bracket that is opened, with one word
at most in front of the first one. -/
def HasTypes (text : List Char) : Prop :=
  '[' ∈ text ∧ (words (text.takeWhile (· ≠ '['))).length ≤ 1

/-- Types start behind the first opening bracket of a text, with one word at
most in front of it. -/
structure OpensTypes (text lead rest : List Char) : Prop where
  text_eq : text = lead ++ '[' :: rest
  isFirst : '[' ∉ lead
  few : (words lead).length ≤ 1

/-- The types and the name that a text gives. -/
inductive Reads (text : List Char) :
    Option (List Char) → Option (List Char) → Prop
  /-- Without types the name is the first word. -/
  | untyped :
      ¬ HasTypes text →
      Reads text none ((words text).head?.map trimmedName)
  /-- Types end in front of the bracket that closes theirs.  The name is the
  word in front of them, or else the first one behind them. -/
  | closed {lead types after : List Char} :
      OpensTypes text lead (types ++ ']' :: after) →
      NestsBrackets types →
      Reads text (some types)
        (((words lead).head?.or (words after).head?).map trimmedName)
  /-- Types that are never closed go on to the end. -/
  | unclosed {lead types : List Char} :
      OpensTypes text lead types →
      (∀ inside after, types = inside ++ ']' :: after →
        ¬ NestsBrackets inside) →
      Reads text (some types) ((words lead).head?.map trimmedName)

theorem takeWhile_ne_opening
    {lead : List Char}
    (isFirst : '[' ∉ lead)
    (rest : List Char) :
    (lead ++ '[' :: rest).takeWhile (· ≠ '[') = lead := by
  apply takeWhile_append
  · intro c member
    exact decide_eq_true fun opening => isFirst (opening ▸ member)
  · exact startsOutside_cons (by simp) rest

theorem hasTypes_iff
    {text : List Char} :
    HasTypes text ↔ ∃ lead rest, OpensTypes text lead rest := by
  constructor
  · rintro ⟨opens, few⟩
    obtain ⟨lead, rest, rfl, isFirst⟩ := List.eq_append_cons_of_mem opens
    rw [takeWhile_ne_opening isFirst] at few
    exact ⟨lead, rest, rfl, isFirst, few⟩
  · rintro ⟨lead, rest, rfl, isFirst, few⟩
    refine ⟨by simp, ?_⟩
    rwa [takeWhile_ne_opening isFirst]

/-- Every text is read in some way. -/
theorem exists_reads (text : List Char) :
    ∃ types name, Reads text types name := by
  by_cases hasTypes : HasTypes text
  · obtain ⟨lead, rest, opens⟩ := hasTypes_iff.mp hasTypes
    cases closes : TypeListCut.untilClosing 0 rest with
    | mk types after =>
        cases after with
        | none =>
            obtain ⟨rfl, noneCloses⟩ :=
              TypeListCut.untilClosing_eq_none_iff.mp closes
            exact ⟨_, _, .unclosed opens noneCloses⟩
        | some after =>
            obtain ⟨rfl, nests⟩ :=
              TypeListCut.untilClosing_eq_some_iff.mp closes
            exact ⟨_, _, .closed opens nests⟩
  · exact ⟨_, _, .untyped hasTypes⟩

theorem Reads.isSome_iff
    {text : List Char}
    {types name : Option (List Char)}
    (reads : Reads text types name) :
    types.isSome = true ↔ HasTypes text := by
  cases reads with
  | untyped noTypes => simp [noTypes]
  | closed opens _ => simp [hasTypes_iff.mpr ⟨_, _, opens⟩]
  | unclosed opens _ => simp [hasTypes_iff.mpr ⟨_, _, opens⟩]

/-! ## The cut at the types -/

namespace TypeListCut

/-- All that stands in front of the opening bracket. -/
def front (cut : TypeListCut) : List Char :=
  cut.blanks ++ cut.word ++ cut.gap

namespace HasLead

variable {cut : TypeListCut}

theorem opening_not_mem_front (hasLead : cut.HasLead) : '[' ∉ cut.front := by
  intro member
  rcases List.mem_append.mp member with inLead | inGap
  · rcases List.mem_append.mp inLead with inBlanks | inWord
    · exact absurd (hasLead.blanks _ inBlanks) (by simp [isBlank_opening])
    · exact (hasLead.word _ inWord).2 rfl
  · exact absurd (hasLead.gap _ inGap) (by simp [isBlank_opening])

theorem isWordCut
    (hasLead : cut.HasLead)
    (hasWord : cut.word ≠ []) :
    IsWordCut cut.blanks cut.word cut.gap where
  allBlank := hasLead.blanks
  notBlank := fun c member => (hasLead.word c member).1
  nonempty := hasWord
  apart := by
    intro c head
    have blank := hasLead.gap c (List.mem_of_head? head)
    simp [blank]

theorem words_front
    (hasLead : cut.HasLead) :
    words cut.front = if cut.word = [] then [] else [cut.word] := by
  by_cases noWord : cut.word = []
  · rw [if_pos noWord, front, noWord, hasLead.gap_eq_nil noWord,
      List.append_nil, List.append_nil]
    exact words_of_blank hasLead.blanks
  · rw [if_neg noWord, front, List.append_assoc,
      (hasLead.isWordCut noWord).words_eq, words_of_blank hasLead.gap]

/-- The cut is at the first bracket of the text, behind one word at most. -/
theorem opensTypes
    (hasLead : cut.HasLead)
    (rest : List Char) :
    OpensTypes (cut.lead ++ rest) cut.front rest where
  text_eq := by simp [lead, front]
  isFirst := hasLead.opening_not_mem_front
  few := by
    rw [hasLead.words_front]
    split <;> simp

end HasLead

end TypeListCut

/-- A text is cut where it opens types. -/
theorem OpensTypes.exists_cut
    {text lead rest : List Char}
    (opens : OpensTypes text lead rest) :
    ∃ cut, TypeListCut.ofChars? text = some cut ∧ cut.front = lead ∧
      TypeListCut.untilClosing 0 rest = (cut.inside, cut.after) := by
  obtain ⟨rfl, isFirst, few⟩ := opens
  have isCut : ∃ cut : TypeListCut, cut.HasLead ∧ cut.front = lead ∧
      TypeListCut.untilClosing 0 rest = (cut.inside, cut.after) := by
    rcases blank_or_isWordCut lead with allBlank | split
    · refine ⟨⟨lead, [], [], _, _⟩, ?_, ?_, rfl⟩
      · exact ⟨allBlank, by simp, by simp, fun _ => rfl⟩
      · simp [TypeListCut.front]
    · obtain ⟨blanks, word, gap, rfl, isWordCut⟩ := split
      -- A second word would stand in the gap.
      have gapBlank : ∀ c ∈ gap, isBlank c = true := by
        rw [isWordCut.words_eq, List.length_cons] at few
        apply words_eq_nil_iff.mp
        exact List.eq_nil_of_length_eq_zero (by omega)
      have notOpening : ∀ c ∈ word, c ≠ '[' := by
        rintro c member rfl
        exact isFirst (by simp [member])
      refine ⟨⟨blanks, word, gap, _, _⟩, ?_, ?_, rfl⟩
      · exact ⟨isWordCut.allBlank,
          fun c member => ⟨isWordCut.notBlank c member, notOpening c member⟩,
          gapBlank, fun noWord => absurd noWord isWordCut.nonempty⟩
      · simp [TypeListCut.front]
  obtain ⟨cut, hasLead, rfl, closes⟩ := isCut
  refine ⟨cut, ?_, rfl, closes⟩
  rw [← (hasLead.opensTypes rest).text_eq]
  exact TypeListCut.ofChars?_of_hasLead hasLead closes

/-- A text without types is not cut. -/
theorem TypeListCut.ofChars?_eq_none_of_not_hasTypes
    {text : List Char}
    (noTypes : ¬ HasTypes text) :
    ofChars? text = none := by
  apply Option.eq_none_iff_forall_ne_some.mpr
  intro cut found
  obtain ⟨hasLead, rest, rfl, _⟩ := hasLead_of_ofChars? found
  exact noTypes (hasTypes_iff.mpr ⟨_, _, hasLead.opensTypes rest⟩)

/-! ## What is read -/

/-- The characters of a text that is read from a tag. -/
def TagText.chars (text : TagText) : List Char :=
  text.text.toList

theorem Body.chars_textAt (body : Body) (before text : List Char) :
    (body.textAt before text).chars = text := by
  rw [TagText.chars, text_textAt, String.toList_ofList]

theorem trimmedName_reverse
    (last c : Char)
    (rest : List Char) :
    trimmedName (last :: c :: rest).reverse =
      if last = ',' ∨ last = ':' then (c :: rest).reverse
      else (last :: c :: rest).reverse := by
  simp [trimmedName]

/-- What is left of a name does not depend on reading it from its end. -/
theorem Cutting.text_trimName (cutting : Cutting) :
    cutting.trimName.text = trimmedName cutting.text := by
  obtain ⟨before, text⟩ := cutting
  obtain ⟨reversed, rfl⟩ : ∃ reversed : List Char, text = reversed.reverse :=
    ⟨text.reverse, text.reverse_reverse.symm⟩
  rw [trimName.eq_def, List.reverse_reverse]
  dsimp only
  split
  · rw [trimmedName_reverse, if_pos (Or.inl rfl)]
  · rw [trimmedName_reverse, if_pos (Or.inr rfl)]
  · rename_i noComma noColon
    match reversed with
    | [] => rfl
    | [c] => rfl
    | last :: c :: rest =>
        rw [trimmedName_reverse, if_neg]
        rintro (rfl | rfl)
        · exact noComma c rest rfl
        · exact noColon c rest rfl

/-- A name that is read is a word without its punctuation. -/
theorem Body.map_chars_name
    (body : Body)
    (found : Option Cutting) :
    (found.map fun cutting => body.cutting cutting.trimName).map
        TagText.chars =
      (found.map Cutting.text).map trimmedName := by
  rw [Option.map_map, Option.map_map]
  congr 1
  funext cutting
  rw [Function.comp_apply, Function.comp_apply, Body.cutting,
    Body.chars_textAt, Cutting.text_trimName]

namespace TagFields

theorem map_chars_name_of_none
    {rest : List Char}
    (absent : TypeListCut.ofChars? rest = none)
    (body : Body)
    (before : List Char) :
    (typesAndName body before rest).name.map TagText.chars =
      (words rest).head?.map trimmedName := by
  unfold typesAndName
  rw [absent]
  dsimp only
  rw [Body.map_chars_name, map_text_firstWord?]

theorem map_chars_name_of_some
    {rest : List Char}
    {cut : TypeListCut}
    (found : TypeListCut.ofChars? rest = some cut)
    (body : Body)
    (before : List Char) :
    (typesAndName body before rest).name.map TagText.chars =
      ((words cut.front).head?.or
        (cut.after.bind fun after => (words after).head?)).map trimmedName := by
  have hasLead := (TypeListCut.hasLead_of_ofChars? found).1
  unfold typesAndName
  rw [found, hasLead.words_front]
  dsimp only
  rw [Body.map_chars_name]
  congr 1
  cases cut.word with
  | nil =>
      cases cut.after with
      | none => rfl
      | some after => exact map_text_firstWord? _ after
  | cons c more => rfl

/-- Where types are opened, they are what the search for their end gives, and
the name stands in front of them or behind that end. -/
theorem typesAndName_of_opensTypes
    {text lead rest inside : List Char}
    {after : Option (List Char)}
    (opens : OpensTypes text lead rest)
    (closes : TypeListCut.untilClosing 0 rest = (inside, after))
    (body : Body)
    (before : List Char) :
    (typesAndName body before text).types.map TagText.chars = some inside ∧
      (typesAndName body before text).name.map TagText.chars =
        ((words lead).head?.or
          (after.bind fun after => (words after).head?)).map trimmedName := by
  obtain ⟨cut, found, rfl, cutCloses⟩ := opens.exists_cut
  obtain ⟨rfl, rfl⟩ := Prod.mk.inj (closes.symm.trans cutCloses)
  refine ⟨?_, map_chars_name_of_some found body before⟩
  rw [types_typesAndName, found, Option.map_some, Option.map_some,
    Body.chars_textAt]

/-- Types and a name are read as it is documented. -/
theorem typesAndName_of_reads
    {text : List Char}
    {types name : Option (List Char)}
    (reads : Reads text types name)
    (body : Body)
    (before : List Char) :
    (typesAndName body before text).types.map TagText.chars = types ∧
      (typesAndName body before text).name.map TagText.chars = name := by
  cases reads with
  | untyped noTypes =>
      have absent := TypeListCut.ofChars?_eq_none_of_not_hasTypes noTypes
      refine ⟨?_, map_chars_name_of_none absent body before⟩
      rw [types_typesAndName, absent]
      rfl
  | @closed lead types after opens nests =>
      have closes : TypeListCut.untilClosing 0 (types ++ ']' :: after) =
          (types, some after) :=
        TypeListCut.untilClosing_eq_some_iff.mpr ⟨rfl, nests⟩
      exact typesAndName_of_opensTypes opens closes body before
  | unclosed opens noneCloses =>
      have closes := TypeListCut.untilClosing_eq_none_iff.mpr ⟨rfl, noneCloses⟩
      have read := typesAndName_of_opensTypes opens closes body before
      rwa [Option.bind_none, Option.or_none] at read

/-- What is read is what is documented, and nothing else is. -/
theorem reads_iff
    (body : Body)
    (before text : List Char)
    (types name : Option (List Char)) :
    Reads text types name ↔
      (typesAndName body before text).types.map TagText.chars = types ∧
        (typesAndName body before text).name.map TagText.chars = name := by
  constructor
  · exact fun reads => typesAndName_of_reads reads body before
  · rintro ⟨rfl, rfl⟩
    -- The text is read in some way, and each way is the one of the tag.
    obtain ⟨types, name, reads⟩ := exists_reads text
    obtain ⟨typesEq, nameEq⟩ := typesAndName_of_reads reads body before
    rwa [typesEq, nameEq]

end TagFields

/-- Types and a name are those that a text gives, as it is documented. -/
structure AreReadFrom
    (text : List Char)
    (types name : Option TagText) : Prop where
  present : types.isSome = true ↔ HasTypes text
  exact : ∀ typesChars nameChars, Reads text typesChars nameChars ↔
    types.map TagText.chars = typesChars ∧ name.map TagText.chars = nameChars

theorem TagFields.areReadFrom
    (body : Body)
    (before text : List Char) :
    AreReadFrom text (typesAndName body before text).types
      (typesAndName body before text).name where
  present := by
    have reads := (reads_iff body before text _ _).mpr ⟨rfl, rfl⟩
    rw [← reads.isSome_iff, Option.isSome_map]
  exact := reads_iff body before text

/-- Behind the first word of an option, its key is read like a name. -/
theorem TagFields.option_of_isWordCut
    {body : Body}
    {blanks word rest : List Char}
    (isWordCut : IsWordCut blanks word rest)
    (chars : body.chars = blanks ++ (word ++ rest))
    (notOpening : word.head? ≠ some '[') :
    (option body).name.map TagText.chars = some (trimmedName word) ∧
      AreReadFrom rest (option body).types (option body).key := by
  have first := isWordCut.firstWord?_eq []
  rw [← chars] at first
  unfold option
  rw [first, chars, isWordCut.trimStart_eq, isWordCut.afterWord_eq]
  dsimp only
  rw [if_neg notOpening]
  refine ⟨?_, areReadFrom body _ rest⟩
  exact Body.map_chars_name body (some ⟨[] ++ blanks, word⟩)

/-! ## Tags -/

namespace Tag

section OfBody

variable {index : Nat}
variable {directive : String}
variable {body : Body}

theorem reference?_of_kind
    (noReference : (ofBody index directive body).kind ≠ .reference) :
    Cutting.reference? body.chars = none := by
  cases found : Cutting.reference? body.chars with
  | none => rfl
  | some name =>
      unfold ofBody at noReference
      rw [found] at noReference
      exact absurd rfl noReference

/-- A tag for a parameter has the types and the name in the whole of its
body. -/
theorem areReadFrom_param
    (noReference : Cutting.reference? body.chars = none)
    (isParam : directive = "param" ∨ directive = "yieldparam") :
    AreReadFrom body.chars (ofBody index directive body).types
      (ofBody index directive body).name := by
  have read := TagFields.areReadFrom body [] body.chars
  unfold ofBody
  rw [noReference]
  rcases isParam with rfl | rfl
  · exact read
  · exact read

/-- An option has the fields that are read for options. -/
theorem fields_option
    (noReference : Cutting.reference? body.chars = none) :
    (ofBody index "option" body).name = (TagFields.option body).name ∧
      (ofBody index "option" body).types = (TagFields.option body).types ∧
      (ofBody index "option" body).key = (TagFields.option body).key := by
  unfold ofBody
  rw [noReference]
  exact ⟨rfl, rfl, rfl⟩

end OfBody

/-- A tag for a parameter that is no reference has the types and the name that
its text gives.  An option has the first word of its text as its name, unless
types are opened there, and what follows that word gives its types and its
key. -/
theorem areReadFrom_of_mem_extract
    {comments : List CommentLine}
    {tag : Tag}
    (member : tag ∈ extract comments)
    (noReference : tag.kind ≠ .reference) :
    (tag.directive = "param" ∨ tag.directive = "yieldparam" →
      AreReadFrom tag.text.toList tag.types tag.name) ∧
    (tag.directive = "option" →
      ∀ blanks word rest, IsWordCut blanks word rest →
        tag.text.toList = blanks ++ (word ++ rest) →
        word.head? ≠ some '[' →
        tag.name.map TagText.chars = some (trimmedName word) ∧
          AreReadFrom rest tag.types tag.key) := by
  obtain ⟨block, _, rfl⟩ := TagBlock.exists_of_mem_extract member
  have notReference := reference?_of_kind noReference
  have text : block.tag.text.toList = block.body.chars := by
    rw [TagBlock.tag, text_ofBody, String.toList_ofList]
  rw [text, TagBlock.tag, directive_ofBody]
  refine ⟨areReadFrom_param notReference, ?_⟩
  intro isOption blanks word rest isWordCut chars notOpening
  rw [isOption]
  obtain ⟨name, types, key⟩ := fields_option notReference
  rw [name, types, key]
  exact TagFields.option_of_isWordCut isWordCut chars notOpening

/-- A parameter with nested brackets right behind its name, and an option whose
types are never closed. -/
def bracketed : List CommentLine :=
  [⟨1, 2, "# @param list,[Array<[é]>] all", true⟩,
    ⟨2, 2, "# @option opts: [Hash[é", true⟩, ⟨3, 2, "#   ] key", true⟩]

/-- The comma and the colon are no part of the names, and only the bracket that
is opened in the types is closed. -/
theorem areReadFrom_bracketed :
    (extract bracketed).map directive = ["param", "option"] ∧
      (∀ tag ∈ extract bracketed, tag.directive = "param" →
        tag.types.map TagText.chars = some "Array<[é]>".toList ∧
          tag.name.map TagText.chars = some "list".toList ∧
          AreReadFrom tag.text.toList tag.types tag.name) ∧
      ∀ tag ∈ extract bracketed, tag.directive = "option" →
        tag.types.map TagText.chars = some "Hash[é\n  ] key".toList ∧
          tag.name.map TagText.chars = some "opts".toList ∧
          AreReadFrom " [Hash[é\n  ] key".toList tag.types tag.key := by
  have noReference : ∀ tag ∈ extract bracketed, tag.kind ≠ .reference := by
    decide +kernel
  have param : ∀ tag ∈ extract bracketed, tag.directive = "param" →
      tag.types.map TagText.chars = some "Array<[é]>".toList ∧
        tag.name.map TagText.chars = some "list".toList := by
    decide +kernel
  have option : ∀ tag ∈ extract bracketed, tag.directive = "option" →
      tag.types.map TagText.chars = some "Hash[é\n  ] key".toList ∧
        tag.text.toList =
          [' '] ++ ("opts:".toList ++ " [Hash[é\n  ] key".toList) := by
    decide +kernel
  refine ⟨by decide +kernel, ?_, ?_⟩
  · intro tag member isParam
    obtain ⟨types, name⟩ := param tag member isParam
    have read := areReadFrom_of_mem_extract member (noReference tag member)
    exact ⟨types, name, read.1 (Or.inl isParam)⟩
  · intro tag member isOption
    obtain ⟨types, text⟩ := option tag member isOption
    have notBlank : ("opts:".toList.all fun c => !isBlank c) = true := by
      decide
    have isWordCut : IsWordCut [' '] "opts:".toList
        " [Hash[é\n  ] key".toList :=
      { allBlank := List.forall_mem_singleton.mpr (by decide)
        notBlank := by simpa using notBlank
        nonempty := by decide
        apart := startsOutside_cons (by decide) _ }
    have read := areReadFrom_of_mem_extract member (noReference tag member)
    obtain ⟨name, keyRead⟩ :=
      read.2 isOption _ _ _ isWordCut text (by decide)
    have trimmed : trimmedName "opts:".toList = "opts".toList := by
      decide
    rw [trimmed] at name
    exact ⟨types, name, keyRead⟩

end Tag

end DocLint
