import DocLint.Proofs.ParameterTags
import DocLint.Proofs.TracedTexts

/-!
# What holds of every tag

The checks rely on how the parts of a tag fit together: types stand in one place
only, a key comes with the name of what holds it, and a tag that refers
elsewhere or has no types by its kind has none.  Names and keys are single words
on one source line, and each text is traced to the comment lines it is copied
from.  All of this holds of every tag that is found in a comment.
-/

namespace DocLint

open Text

/-! ## Texts without blanks -/

namespace Text

/-- A text that is not empty and has no blank in it. -/
structure IsUnbroken (text : List Char) : Prop where
  nonempty : text ≠ []
  notBlank : ∀ c ∈ text, isBlank c = false

theorem IsUnbroken.break_not_mem
    {text : List Char}
    (isUnbroken : IsUnbroken text) :
    '\n' ∉ text := by
  intro member
  exact absurd Body.isBlank_break (by simp [isUnbroken.notBlank _ member])

theorem isUnbroken_of_head?_words
    {text word : List Char}
    (isFirst : (words text).head? = some word) :
    IsUnbroken word := by
  rcases blank_or_isWordCut text with allBlank | cut
  · rw [words_of_blank allBlank] at isFirst
    exact absurd isFirst (by simp)
  · obtain ⟨blanks, first, rest, rfl, isWordCut⟩ := cut
    rw [isWordCut.words_eq] at isFirst
    obtain rfl := Option.some.inj isFirst
    exact ⟨isWordCut.nonempty, isWordCut.notBlank⟩

end Text

/-- A word does not lose all of itself when it is trimmed to a name. -/
theorem isUnbroken_trimmedName
    {word : List Char}
    (isUnbroken : IsUnbroken word) :
    IsUnbroken (trimmedName word) := by
  unfold trimmedName
  split
  · rename_i isLong
    refine ⟨?_, fun c member =>
      isUnbroken.notBlank c ((List.dropLast_sublist word).subset member)⟩
    apply List.ne_nil_of_length_pos
    rw [List.length_dropLast]
    omega
  · exact isUnbroken

/-- The name that a text gives has no blank in it. -/
theorem Reads.isUnbroken
    {text : List Char}
    {types found : Option (List Char)}
    (reads : Reads text types found)
    {name : List Char}
    (isName : found = some name) :
    IsUnbroken name := by
  have trimmed {word? : Option (List Char)}
      (named : word?.map trimmedName = some name)
      (unbroken : ∀ word, word? = some word → IsUnbroken word) :
      IsUnbroken name := by
    obtain ⟨word, isWord, rfl⟩ := Option.map_eq_some_iff.mp named
    exact isUnbroken_trimmedName (unbroken word isWord)
  cases reads with
  | untyped _ => exact trimmed isName fun _ => isUnbroken_of_head?_words
  | closed _ _ =>
      -- The word stands in front of the types, or else behind them.
      refine trimmed isName fun word isWord => ?_
      rcases Option.or_eq_some_iff.mp isWord with inFront | ⟨_, behind⟩
      · exact isUnbroken_of_head?_words inFront
      · exact isUnbroken_of_head?_words behind
  | unclosed _ _ => exact trimmed isName fun _ => isUnbroken_of_head?_words

/-! ## Fields and the kind of their tag -/

/-- What the fields of a tag have to do with its kind, and with each other. -/
structure TagFields.Fit (fields : TagFields) (kind : TagKind) : Prop where
  keyed : fields.key.isSome = true →
    kind = .option ∧ fields.name.isSome = true
  untyped : kind = .reference ∨ kind = .overload ∨ kind = .other →
    fields.types = none ∧ fields.misplacedTypes = none ∧ fields.key = none
  name : ∀ text, fields.name = some text → IsUnbroken text.chars
  key : ∀ text, fields.key = some text → IsUnbroken text.chars

/-- A name is unbroken when the word is that it is cut from. -/
theorem Body.isUnbroken_trimName
    (body : Body)
    {cutting : Cutting}
    (isUnbroken : IsUnbroken cutting.text) :
    IsUnbroken (body.cutting cutting.trimName).chars := by
  rw [Body.cutting, Body.chars_textAt, Cutting.text_trimName]
  exact isUnbroken_trimmedName isUnbroken

theorem Cutting.isUnbroken_of_reference?
    {text : List Char}
    {cutting : Cutting}
    (found : reference? text = some (some cutting)) :
    IsUnbroken cutting.text := by
  obtain ⟨rfl, nonempty⟩ := eq_of_reference? found
  refine ⟨nonempty, fun c member => ?_⟩
  simpa using List.mem_takeWhile_imp member

namespace TagFields

/-- Fields without a key fit every kind that has types, and every other kind if
they have no types. -/
theorem fit_of_key_eq_none
    {fields : TagFields}
    {kind : TagKind}
    (noKey : fields.key = none)
    (typed : kind.isTyped = true ∨
      fields.types = none ∧ fields.misplacedTypes = none)
    (name : ∀ text, fields.name = some text → IsUnbroken text.chars) :
    fields.Fit kind where
  keyed := by
    intro hasKey
    exact absurd hasKey (by simp [noKey])
  untyped := by
    intro isUntyped
    rcases typed with isTyped | ⟨noTypes, notMisplaced⟩
    · rcases isUntyped with rfl | rfl | rfl
      all_goals exact absurd isTyped (by decide)
    · exact ⟨noTypes, notMisplaced, noKey⟩
  name := name
  key := by
    intro text given
    exact absurd given (by simp [noKey])

theorem fit_empty (kind : TagKind) : Fit {} kind :=
  fit_of_key_eq_none rfl (Or.inr ⟨rfl, rfl⟩) (by simp)

theorem isUnbroken_name_typesAndName
    {body : Body}
    {before rest : List Char}
    {text : TagText}
    (given : (typesAndName body before rest).name = some text) :
    IsUnbroken text.chars := by
  have reads := (reads_iff body before rest _ _).mpr ⟨rfl, rfl⟩
  exact reads.isUnbroken (by rw [given, Option.map_some])

theorem key_typesAndName
    (body : Body)
    (before rest : List Char) :
    (typesAndName body before rest).key = none := by
  unfold typesAndName
  dsimp only
  split <;> rfl

theorem fit_typesAndName
    (body : Body)
    (before rest : List Char)
    {kind : TagKind}
    (isTyped : kind.isTyped = true) :
    (typesAndName body before rest).Fit kind :=
  fit_of_key_eq_none (key_typesAndName body before rest) (Or.inl isTyped)
    fun _ => isUnbroken_name_typesAndName

theorem fit_option (body : Body) : (option body).Fit .option := by
  unfold option
  split
  · exact fit_empty .option
  · rename_i word found
    split
    · exact fit_of_key_eq_none rfl (Or.inl rfl) (by simp)
    · have isFirst := map_text_firstWord? [] body.chars
      rw [found, Option.map_some] at isFirst
      refine ⟨fun _ => ⟨rfl, rfl⟩, ?_, ?_, ?_⟩
      · rintro (isOther | isOther | isOther)
        all_goals exact absurd isOther (by decide)
      · intro text given
        obtain rfl := Option.some.inj given
        exact body.isUnbroken_trimName
          (isUnbroken_of_head?_words isFirst.symm)
      · -- The key is read behind the word, like the name of a parameter.
        exact fun _ => isUnbroken_name_typesAndName

theorem fit_typesOnly
    (body : Body)
    {kind : TagKind}
    (isTyped : kind.isTyped = true) :
    (typesOnly body).Fit kind := by
  unfold typesOnly
  split
  · exact fit_of_key_eq_none rfl (Or.inl isTyped) (by simp)
  · exact fit_of_key_eq_none rfl (Or.inl isTyped) (by simp)

end TagFields

namespace Tag

/-- The fields of a tag fit its kind. -/
theorem fit_ofBody
    (index : Nat)
    (directive : String)
    (body : Body) :
    (ofBody index directive body).fields.Fit
      (ofBody index directive body).kind := by
  unfold ofBody
  split
  · rename_i name found
    refine TagFields.fit_of_key_eq_none rfl (Or.inr ⟨rfl, rfl⟩) ?_
    intro text given
    obtain ⟨cutting, rfl, rfl⟩ := Option.map_eq_some_iff.mp given
    exact body.isUnbroken_trimName (Cutting.isUnbroken_of_reference? found)
  · dsimp only [fields]
    generalize TagKind.ofDirective directive = kind
    cases kind with
    | param => exact TagFields.fit_typesAndName body _ _ rfl
    | yieldParam => exact TagFields.fit_typesAndName body _ _ rfl
    | option => exact TagFields.fit_option body
    | returns => exact TagFields.fit_typesOnly body rfl
    | raise => exact TagFields.fit_typesOnly body rfl
    | yieldReturn => exact TagFields.fit_typesOnly body rfl
    | reference => exact TagFields.fit_empty _
    | overload => exact TagFields.fit_empty _
    | other => exact TagFields.fit_empty _

/-- A tag is a reference, or of the kind that its directive announces. -/
theorem kind_ofBody
    (index : Nat)
    (directive : String)
    (body : Body) :
    (ofBody index directive body).kind = .reference ∨
      (ofBody index directive body).kind = TagKind.ofDirective directive := by
  unfold ofBody
  split
  · exact Or.inl rfl
  · exact Or.inr rfl

end Tag

/-! ## Tags of a comment -/

/-- A text is one word that stands on one source line. -/
structure TagText.IsOneWord (text : TagText) : Prop where
  isUnbroken : IsUnbroken text.chars
  onLine : ∃ line column,
    text.pieces = [⟨0, byteLength text.chars, line, column⟩]

theorem TagText.IsPartOf.isOneWord
    {body : Body}
    {text : TagText}
    (isPartOf : text.IsPartOf body)
    (isUnbroken : IsUnbroken text.chars) :
    text.IsOneWord := by
  refine ⟨isUnbroken, ?_⟩
  obtain ⟨cutting, ⟨after, chars⟩, rfl⟩ := isPartOf
  rw [Body.cutting, Body.chars_textAt] at isUnbroken ⊢
  exact Body.exists_pieces_eq_singleton chars isUnbroken.nonempty
    isUnbroken.break_not_mem

/-- What the checks rely on in a tag of a comment. -/
structure Tag.IsSound (tag : Tag) (comments : List CommentLine) : Prop where
  startsOn : ∃ comment, comments[tag.lineIndex]? = some comment ∧
    comment.leading = true
  typesOnce : tag.types = none ∨ tag.misplacedTypes = none
  keyed : tag.key.isSome = true →
    tag.kind = .option ∧ tag.name.isSome = true
  untyped : tag.kind = .reference ∨ tag.kind = .overload ∨ tag.kind = .other →
    tag.types = none ∧ tag.misplacedTypes = none ∧ tag.key = none
  announced : tag.kind ≠ .reference →
    tag.kind = TagKind.ofDirective tag.directive
  words : ∀ text, tag.name = some text ∨ tag.key = some text → text.IsOneWord
  traced : ∀ text, tag.name = some text ∨ tag.key = some text ∨
    tag.types = some text ∨ tag.misplacedTypes = some text →
      text.IsTraced comments

/-- Every tag of a comment is as the checks rely on. -/
theorem Tag.isSound_of_mem_extract
    {comments : List CommentLine}
    {tag : Tag}
    (member : tag ∈ extract comments) :
    tag.IsSound comments := by
  obtain ⟨comment, _, isComment, leading⟩ := exists_comment member
  obtain ⟨block, isBlock, rfl⟩ := TagBlock.exists_of_mem_extract member
  have fit : block.tag.fields.Fit block.tag.kind := fit_ofBody _ _ _
  have areOf : block.tag.fields.AreOf block.body := areOf_ofBody _ _ _
  refine
    { startsOn := ⟨comment, isComment, leading⟩
      typesOnce := hasTypesOnce_ofBody _ _ _
      keyed := fit.keyed
      untyped := fit.untyped
      announced := ?_
      words := ?_
      traced := ?_ }
  · intro notReference
    rw [TagBlock.tag, directive_ofBody]
    exact (kind_ofBody _ _ _).resolve_left notReference
  · rintro text (isName | isKey)
    · exact (areOf.name text isName).isOneWord (fit.name text isName)
    · exact (areOf.key text isKey).isOneWord (fit.key text isKey)
  · rintro text (isName | isKey | areTypes | areMisplaced)
    · exact (areOf.name text isName).isTraced isBlock
    · exact (areOf.key text isKey).isTraced isBlock
    · exact (areOf.types text areTypes).isTraced isBlock
    · exact (areOf.misplacedTypes text areMisplaced).isTraced isBlock

/-- An option whose types go on over a line, a return value with its types in
the wrong place, and a reference. -/
def Tag.assorted : List CommentLine :=
  [⟨1, 8, "# @no tag", false⟩, ⟨2, 2, "# @option opts: [Hash\x7bé", true⟩,
    ⟨3, 2, "#   => String\x7d] :key, text", true⟩,
    ⟨4, 2, "# @return the [Array]", true⟩,
    ⟨5, 2, "# @param name (see Other)", true⟩]

/-- A character of two bytes stands at the end of the first piece of the
types. -/
theorem Tag.isSound_assorted :
    (extract assorted).map kind = [.option, .returns, .reference] ∧
      (extract assorted).map (fun tag => tag.key.map TagText.chars) =
        [some ":key".toList, none, none] ∧
      (extract assorted).map (fun tag => tag.types.map TagText.pieces) =
        [some [⟨0, 7, 2, 19⟩, ⟨8, 12, 3, 4⟩], none, none] ∧
      ∀ tag ∈ extract assorted, tag.IsSound assorted := by
  refine ⟨by decide +kernel, by decide +kernel, by decide +kernel, ?_⟩
  intro tag member
  exact isSound_of_mem_extract member

end DocLint
