import DocLint.Check.Arguments
import DocLint.Proofs.CommentShape
import DocLint.Proofs.Lexing

/-!
# Reading generated tags

The tag that is generated for a parameter is read back as it is meant: its line
starts a tag of its own, the tag is no reference, and it has the given name and
the given types.  The name has to be a word, and the types may hold square
brackets as long as these are balanced.
-/

namespace DocLint

open Text

/-! ## Balanced brackets -/

namespace TypeListCut

/-- How many square brackets are open behind a text, from inside `depth` of them
on; nothing if a bracket is closed that is not open. -/
def depthAfter? (depth : Nat) : List Char → Option Nat
  | [] => some depth
  | c :: rest =>
      if c = ']' then
        match depth with
        | 0 => none
        | depth + 1 => depthAfter? depth rest
      else if c = '[' then depthAfter? (depth + 1) rest
      else depthAfter? depth rest

/-- Every square bracket of a text has its partner in the text. -/
def IsBalanced (text : List Char) : Prop :=
  depthAfter? 0 text = some 0

instance (text : List Char) : Decidable (IsBalanced text) :=
  inferInstanceAs (Decidable (depthAfter? 0 text = some 0))

/-- The search for the closing bracket passes over a text as far as it keeps
within its brackets. -/
theorem untilClosing_append_of_depthAfter?
    {depth inner : Nat}
    {text : List Char}
    (passes : depthAfter? depth text = some inner)
    (rest : List Char) :
    untilClosing depth (text ++ rest) =
      (text ++ (untilClosing inner rest).1, (untilClosing inner rest).2) := by
  induction text generalizing depth with
  | nil =>
      obtain rfl := Option.some.inj passes
      rfl
  | cons c text hypothesis =>
      unfold depthAfter? at passes
      rw [List.cons_append, untilClosing.eq_def]
      dsimp only
      by_cases closes : c = ']'
      · rw [if_pos closes] at passes ⊢
        cases depth with
        | zero => exact absurd passes (by simp)
        | succ depth =>
            dsimp only at passes ⊢
            rw [hypothesis passes, List.cons_append]
      · rw [if_neg closes] at passes ⊢
        by_cases opens : c = '['
        · rw [if_pos opens] at passes ⊢
          rw [hypothesis passes, List.cons_append]
        · rw [if_neg opens] at passes ⊢
          rw [hypothesis passes, List.cons_append]

theorem untilClosing_of_isBalanced
    {text : List Char}
    (balanced : IsBalanced text)
    (after : List Char) :
    untilClosing 0 (text ++ ']' :: after) = (text, some after) := by
  rw [untilClosing_append_of_depthAfter? balanced]
  simp [untilClosing]

end TypeListCut

/-! ## References end with a parenthesis -/

/-- A part that ends a text ends with the same character. -/
theorem getLast?_of_suffix
    {part text : List Char}
    (suffix : part <:+ text)
    (nonempty : part ≠ [])
    {c : Char}
    (last : text.getLast? = some c) :
    part.getLast? = some c := by
  obtain ⟨front, rfl⟩ := suffix
  rwa [List.getLast?_append_of_ne_nil _ nonempty] at last

theorem getLast?_trimStart
    {text : List Char}
    {c : Char}
    (last : text.getLast? = some c)
    (notBlank : isBlank c = false) :
    (trimStart text).getLast? = some c := by
  refine getLast?_of_suffix (List.dropWhile_suffix isBlank) ?_ last
  intro empty
  have allBlank := List.dropWhile_eq_nil_iff.mp empty
  have blank := allBlank c (List.mem_of_getLast? last)
  exact absurd (blank.symm.trans notBlank) (by simp)

theorem getLast?_trim
    {text : List Char}
    {c : Char}
    (last : text.getLast? = some c)
    (notBlank : isBlank c = false) :
    (trim text).getLast? = some c := by
  have trimmed := getLast?_trimStart last notBlank
  have reversed : (trimStart text).reverse.head? = some c := by
    rw [List.head?_reverse, trimmed]
  obtain ⟨rest, restEq⟩ := List.head?_eq_some_iff.mp reversed
  rw [trim, trimEnd, restEq, List.dropWhile_cons_of_neg (by simp [notBlank]),
    ← restEq, List.reverse_reverse, trimmed]

namespace Cutting

/-- A text that ends with something else than a parenthesis does not end as a
reference. -/
theorem isReferenceTail_eq_false
    {text : List Char}
    {c : Char}
    (last : text.getLast? = some c)
    (notBlank : isBlank c = false)
    (notClosing : c ≠ ')') :
    isReferenceTail text = false := by
  unfold isReferenceTail
  split
  · rename_i rest trimmed
    by_contra isTail
    rw [Bool.not_eq_false, Bool.and_eq_true, Bool.or_eq_true] at isTail
    obtain ⟨apart, ending⟩ := isTail
    -- What stands behind the word `see` has the same last character.
    have restNonempty : rest ≠ [] := by
      rintro rfl
      exact absurd apart (by simp [leadingBlanks])
    have restSuffix : rest <:+ text := by
      have behind : 's' :: 'e' :: 'e' :: rest <:+ text := by
        rw [← trimmed]
        exact List.dropWhile_suffix isBlank
      exact (List.suffix_append ['s', 'e', 'e'] rest).trans behind
    have targetLast := getLast?_trimStart
      (getLast?_of_suffix restSuffix restNonempty last) notBlank
    have afterLast (nonempty : afterWord (trimStart rest) ≠ []) :
        (afterWord (trimStart rest)).getLast? = some c :=
      getLast?_of_suffix (List.dropWhile_suffix _) nonempty targetLast
    rcases ending with closes | closes
    · -- The parenthesis stands alone.
      rw [Bool.and_eq_true, beq_iff_eq] at closes
      have nonempty : afterWord (trimStart rest) ≠ [] := by
        intro empty
        rw [empty] at closes
        exact absurd closes.2 (by simp [trim, trimStart, trimEnd])
      have lastOf := getLast?_trim (afterLast nonempty) notBlank
      rw [closes.2] at lastOf
      exact notClosing (Option.some.inj lastOf).symm
    · -- The parenthesis ends the word.
      rw [Bool.and_eq_true, Bool.and_eq_true, beq_iff_eq] at closes
      obtain ⟨⟨_, wordLast⟩, allBlank⟩ := closes
      have empty : afterWord (trimStart rest) = [] := by
        by_contra nonempty
        have blank := List.all_eq_true.mp allBlank c
          (List.mem_of_getLast? (afterLast nonempty))
        exact absurd (blank.symm.trans notBlank) (by simp)
      have whole := leadingWord_append_afterWord (trimStart rest)
      rw [empty, List.append_nil] at whole
      rw [whole, targetLast] at wordLast
      exact notClosing (Option.some.inj wordLast)
  · rfl

theorem isReference_eq_false
    {part text : List Char}
    (suffix : part <:+ text)
    {c : Char}
    (last : text.getLast? = some c)
    (notBlank : isBlank c = false)
    (notClosing : c ≠ ')') :
    isReference part = false := by
  unfold isReference
  split
  · rename_i rest
    have restSuffix : rest <:+ text :=
      (List.suffix_cons '(' rest).trans suffix
    by_cases empty : rest = []
    · rw [empty]
      rfl
    · exact isReferenceTail_eq_false (getLast?_of_suffix restSuffix empty last)
        notBlank notClosing
  · rfl

/-- A text that ends with something else than a parenthesis is no reference. -/
theorem reference?_eq_none
    {text : List Char}
    {c : Char}
    (last : text.getLast? = some c)
    (notBlank : isBlank c = false)
    (notClosing : c ≠ ')') :
    reference? text = none := by
  have behindBlanks : trimStart text <:+ text := List.dropWhile_suffix isBlank
  have behindWord : trimStart (afterWord (trimStart text)) <:+ text :=
    ((List.dropWhile_suffix isBlank).trans (List.dropWhile_suffix _)).trans
      behindBlanks
  unfold reference?
  dsimp only
  rw [isReference_eq_false behindBlanks last notBlank notClosing,
    isReference_eq_false behindWord last notBlank notClosing]
  simp

end Cutting

/-! ## Words as names -/

namespace Cutting

theorem isBlank_eq_false_of_mem_word
    {name : List Char}
    (isWord : IsWord name)
    {c : Char}
    (member : c ∈ name) :
    isBlank c = false :=
  isBlank_eq_false_of_isNameChar (isWord.2 c member)

/-- A word keeps its last character as a name. -/
theorem trimName_of_isWord
    {before name : List Char}
    (isWord : IsWord name) :
    (Cutting.mk before name).trimName = ⟨before, name⟩ := by
  have notPunctuation {c : Char} {rest : List Char}
      (reversed : name.reverse = c :: rest) :
      isNameChar c = true := by
    apply isWord.2 c
    rw [← List.mem_reverse, reversed]
    exact List.mem_cons_self
  unfold trimName
  split
  · rename_i reversed
    exact absurd (notPunctuation reversed) (by decide)
  · rename_i reversed
    exact absurd (notPunctuation reversed) (by decide)
  · rfl

/-- A word behind a space is the first word. -/
theorem firstWord?_of_isWord
    {name : List Char}
    (isWord : IsWord name)
    (before : List Char) :
    firstWord? before (' ' :: name) = some ⟨before ++ [' '], name⟩ := by
  have isWordCut : IsWordCut [' '] name [] :=
    { allBlank := List.forall_mem_singleton.mpr (by decide)
      notBlank := fun _ => isBlank_eq_false_of_mem_word isWord
      nonempty := isWord.1
      apart := by simp [StartsOutside] }
  have first := isWordCut.firstWord?_eq before
  rwa [List.append_nil] at first

end Cutting

/-! ## The line of a generated tag -/

namespace Prototype

/-- What stands behind the directive of a generated tag. -/
def body (prototype : Prototype) (name types : List Char) : List Char :=
  match prototype with
  | .typeFirst => [' ', '['] ++ types ++ [']', ' '] ++ name
  | .nameFirst => ' ' :: name ++ [' ', '['] ++ types ++ [']']

theorem toList_format
    (prototype : Prototype)
    (name types : String) :
    (prototype.format name types).toList =
      '@' :: "param".toList ++ prototype.body name.toList types.toList := by
  cases prototype with
  | typeFirst => simp [format, body]
  | nameFirst => simp [format, body]

end Prototype

/-- A comment line that holds nothing but a generated tag. -/
structure CommentLine.IsGenerated
    (comment : CommentLine)
    (prototype : Prototype)
    (name types : String) : Prop where
  isWord : IsWord name.toList
  balanced : TypeListCut.IsBalanced types.toList
  text : ∃ blanks, (∀ c ∈ blanks, isBlank c = true) ∧
    comment.text.toList = blanks ++ ['#', ' '] ++
      (prototype.format name types).toList

namespace CommentLine.IsGenerated

variable {comment : CommentLine}
variable {prototype : Prototype}
variable {name types : String}

/-- A generated line starts a tag. -/
theorem directive?_eq
    (isGenerated : comment.IsGenerated prototype name types) :
    comment.directive? =
      some ⟨[], "param".toList, prototype.body name.toList types.toList⟩ := by
  obtain ⟨blanks, allBlank, text⟩ := isGenerated.text
  have contentEq : comment.content = (prototype.format name types).toList := by
    rw [content, cut_of_isMarked (.spaced allBlank) text]
  rw [Prototype.toList_format, List.cons_append] at contentEq
  have sign : isBlank '@' = false := by
    decide
  rw [directive?_eq_some_iff]
  refine ⟨"param".toList ++ prototype.body name.toList types.toList, ?_, ?_,
    ?_⟩
  · rw [contentEq]
    exact List.dropWhile_cons_of_neg (by simp [sign])
  · apply cutDirective?_eq_some_iff.mpr
    refine ⟨'p', "aram".toList, by decide, Or.inl rfl,
      List.all_eq_true.mp (by decide), ?_, rfl⟩
    cases prototype with
    | typeFirst => exact startsOutside_cons (by decide) _
    | nameFirst => exact startsOutside_cons (by decide) _
  · rw [indentation, contentEq]
    exact (takeWhile_eq_nil (startsOutside_cons sign _)).symm

end CommentLine.IsGenerated

/-! ## The generated tag -/

/-- A tag that gives some types to a parameter, and nothing else. -/
structure Tag.Documents (tag : Tag) (name types : String) : Prop where
  kind : tag.kind = .param
  directive : tag.directive = "param"
  name : tag.name.map TagText.text = some name
  key : tag.key = none
  types : tag.types.map TagText.text = some types
  misplacedTypes : tag.misplacedTypes = none

section Documents

variable {name types : String}
variable {body : Body}
variable {prototype : Prototype}

/-- The list of types in a generated tag. -/
def Prototype.cut
    (prototype : Prototype)
    (name types : List Char) : TypeListCut :=
  match prototype with
  | .typeFirst =>
      { blanks := [' '], word := [], gap := [], inside := types
        after := some (' ' :: name) }
  | .nameFirst =>
      { blanks := [' '], word := name, gap := [' '], inside := types
        after := some [] }

theorem Prototype.ofChars?_body
    (isWord : IsWord name.toList)
    (balanced : TypeListCut.IsBalanced types.toList)
    (prototype : Prototype) :
    TypeListCut.ofChars? (prototype.body name.toList types.toList) =
      some (prototype.cut name.toList types.toList) := by
  have blank : ∀ c ∈ [' '], isBlank c = true :=
    List.forall_mem_singleton.mpr (by decide)
  cases prototype with
  | typeFirst =>
      have hasLead : (typeFirst.cut name.toList types.toList).HasLead :=
        ⟨blank, by simp [cut], by simp [cut], by simp [cut]⟩
      have closes := TypeListCut.untilClosing_of_isBalanced balanced
        (' ' :: name.toList)
      have found := TypeListCut.ofChars?_of_hasLead hasLead closes
      simpa [TypeListCut.lead, cut, body] using found
  | nameFirst =>
      have notOpening : ∀ c ∈ name.toList, isBlank c = false ∧ c ≠ '[' := by
        intro c member
        refine ⟨Cutting.isBlank_eq_false_of_mem_word isWord member, ?_⟩
        rintro rfl
        exact absurd (isWord.2 _ member) (by decide)
      have hasLead : (nameFirst.cut name.toList types.toList).HasLead :=
        ⟨blank, notOpening, blank, fun empty => absurd empty isWord.1⟩
      have closes := TypeListCut.untilClosing_of_isBalanced balanced []
      have found := TypeListCut.ofChars?_of_hasLead hasLead closes
      simpa [TypeListCut.lead, cut, body] using found

/-- A generated tag does not end with a parenthesis. -/
theorem Prototype.reference?_body
    (isWord : IsWord name.toList)
    (types : List Char)
    (prototype : Prototype) :
    Cutting.reference? (prototype.body name.toList types) = none := by
  cases prototype with
  | typeFirst =>
      have last := List.getLast?_eq_some_getLast isWord.1
      have member := List.getLast_mem isWord.1
      have nameChar := isWord.2 _ member
      apply Cutting.reference?_eq_none
      · rw [body, List.getLast?_append_of_ne_nil _ isWord.1, last]
      · exact isBlank_eq_false_of_isNameChar nameChar
      · intro closing
        rw [closing] at nameChar
        exact absurd nameChar (by decide)
  | nameFirst =>
      have notBlank : isBlank ']' = false := by
        decide
      apply Cutting.reference?_eq_none _ notBlank (by decide)
      rw [body, List.getLast?_append_of_ne_nil _ (by simp)]
      rfl

/-- What stands in front of the name in the body of a generated tag. -/
def Prototype.nameLead (prototype : Prototype) (types : List Char) : List Char :=
  match prototype with
  | .typeFirst => [' ', '['] ++ types ++ [']', ' ']
  | .nameFirst => [' ']

/-- What stands in front of the types in the body of a generated tag. -/
def Prototype.typesLead (prototype : Prototype) (name : List Char) : List Char :=
  match prototype with
  | .typeFirst => [' ', '[']
  | .nameFirst => ' ' :: name ++ [' ', '[']

/-- The name and the types are read from the body of a generated tag where they
are written. -/
theorem TagFields.typesAndName_body
    (isWord : IsWord name.toList)
    (balanced : TypeListCut.IsBalanced types.toList)
    (chars : body.chars = prototype.body name.toList types.toList) :
    typesAndName body [] body.chars =
      { name := some (body.textAt (prototype.nameLead types.toList) name.toList)
        types :=
          some (body.textAt (prototype.typesLead name.toList) types.toList) } := by
  have found := prototype.ofChars?_body isWord balanced
  rw [← chars] at found
  unfold typesAndName
  rw [found]
  dsimp only
  cases prototype with
  | typeFirst =>
      dsimp only [Prototype.cut]
      rw [Cutting.firstWord?_of_isWord isWord, Option.map_some,
        Cutting.trimName_of_isWord isWord]
      simp [Body.cutting, TypeListCut.lead, Prototype.nameLead,
        Prototype.typesLead]
  | nameFirst =>
      dsimp only [Prototype.cut]
      split
      · rename_i empty _
        exact absurd empty isWord.1
      · rename_i empty _
        exact absurd empty isWord.1
      · rw [Option.map_some, Cutting.trimName_of_isWord isWord]
        simp [Body.cutting, TypeListCut.lead, Prototype.nameLead,
          Prototype.typesLead]

/-- What is read from the body of a generated tag. -/
theorem Tag.ofBody_generated
    (isWord : IsWord name.toList)
    (balanced : TypeListCut.IsBalanced types.toList)
    (chars : body.chars = prototype.body name.toList types.toList)
    (index : Nat) :
    ofBody index "param" body =
      { kind := .param
        directive := "param"
        lineIndex := index
        name := some (body.textAt (prototype.nameLead types.toList) name.toList)
        key := none
        types :=
          some (body.textAt (prototype.typesLead name.toList) types.toList)
        misplacedTypes := none
        text := String.ofList body.chars } := by
  have fields := TagFields.typesAndName_body isWord balanced chars
  have notReference := prototype.reference?_body isWord types.toList
  have kind : TagKind.ofDirective "param" = .param := by
    decide
  rw [← chars] at notReference
  unfold ofBody
  rw [notReference]
  dsimp only
  rw [kind]
  dsimp only
  rw [fields]

/-- A generated tag has the name and the types that it is generated for. -/
theorem Tag.documents_ofBody
    (isWord : IsWord name.toList)
    (balanced : TypeListCut.IsBalanced types.toList)
    (chars : body.chars = prototype.body name.toList types.toList)
    (index : Nat) :
    (ofBody index "param" body).Documents name types := by
  rw [ofBody_generated isWord balanced chars]
  refine ⟨rfl, rfl, ?_, rfl, ?_, rfl⟩
  · rw [Option.map_some, Body.text_textAt, String.ofList_toList]
  · rw [Option.map_some, Body.text_textAt, String.ofList_toList]

end Documents

/-! ## Generated lines in a comment -/

namespace Tag

/-- The lines that continue a tag stop where another tag starts. -/
theorem takeWhile_continues_append
    {rest back : List (CommentLine × Nat)}
    (starts : ∀ line, back.head? = some line →
      line.1.directive?.isSome = true)
    (indent : Nat) :
    (rest ++ back).takeWhile (fun line => line.1.continues indent) =
      rest.takeWhile fun line => line.1.continues indent := by
  have stops : back.takeWhile (fun line => line.1.continues indent) = [] := by
    cases back with
    | nil => rfl
    | cons line more =>
        apply List.takeWhile_cons_of_neg
        intro continues
        have directive := TagBlock.directive?_of_continues continues
        exact absurd (starts line rfl) (by simp [directive])
  rw [List.takeWhile_append, stops, List.append_nil]
  split
  · rename_i allTaken
    exact ((List.takeWhile_prefix _).eq_of_length allTaken).symm
  · rfl

/-- Where a tag starts, the lines before and behind can be read apart. -/
theorem ofLines_append
    {front back : List (CommentLine × Nat)}
    (starts : ∀ line, back.head? = some line →
      line.1.directive?.isSome = true) :
    ofLines (front ++ back) = ofLines front ++ ofLines back := by
  induction front with
  | nil => rfl
  | cons line rest hypothesis =>
      obtain ⟨comment, index⟩ := line
      rw [List.cons_append, ofLines, ofLines, hypothesis]
      split
      · rfl
      · rw [takeWhile_continues_append starts, List.cons_append]

/-- The body of the tag on a generated line. -/
def generatedBody
    (comment : CommentLine)
    (prototype : Prototype)
    (name types : String) : Body where
  firstLine := comment.tagLine
    ⟨[], "param".toList, prototype.body name.toList types.toList⟩
  otherLines := []

theorem chars_generatedBody
    (comment : CommentLine)
    (prototype : Prototype)
    (name types : String) :
    (generatedBody comment prototype name types).chars =
      prototype.body name.toList types.toList :=
  List.append_nil _

theorem ofLines_of_isGenerated
    {comment : CommentLine}
    {prototype : Prototype}
    {name types : String}
    (isGenerated : comment.IsGenerated prototype name types)
    (index : Nat) :
    ofLines [(comment, index)] =
      [ofBody index "param" (generatedBody comment prototype name types)] := by
  rw [ofLines, isGenerated.directive?_eq]
  rfl

/-- A generated line alone gives the tag that it is generated for. -/
theorem exists_ofLines_of_isGenerated
    {comment : CommentLine}
    {prototype : Prototype}
    {name types : String}
    (isGenerated : comment.IsGenerated prototype name types)
    (index : Nat) :
    ∃ tag, ofLines [(comment, index)] = [tag] ∧ tag.Documents name types :=
  ⟨_, ofLines_of_isGenerated isGenerated index,
    documents_ofBody isGenerated.isWord isGenerated.balanced
      (chars_generatedBody comment prototype name types) index⟩

/-- Lines that start tags are read one by one. -/
theorem ofLines_eq_flatMap
    {lines : List (CommentLine × Nat)}
    (starts : ∀ line ∈ lines, line.1.directive?.isSome = true) :
    ofLines lines = lines.flatMap fun line => ofLines [line] := by
  induction lines with
  | nil => rfl
  | cons line rest hypothesis =>
      have restStarts : ∀ line ∈ rest, line.1.directive?.isSome = true :=
        fun line member => starts line (List.mem_cons_of_mem _ member)
      have apart : ofLines ([line] ++ rest) = ofLines [line] ++ ofLines rest :=
        ofLines_append fun line head => restStarts line (List.mem_of_head? head)
      rw [List.flatMap_cons, ← hypothesis restStarts, ← apart,
        List.singleton_append]

end Tag

/-! ## The types of generated tags -/

theorem Literal.isBalanced_documentedType (literal : Literal) :
    TypeListCut.IsBalanced literal.documentedType.toList := by
  cases literal <;> decide

/-- The types for a parameter are those for some literal. -/
theorem Parameter.exists_documentedType_eq (parameter : Parameter) :
    ∃ literal : Literal,
      parameter.documentedType = literal.documentedType := by
  unfold documentedType
  split
  · exact ⟨_, rfl⟩
  · exact ⟨_, rfl⟩
  · exact ⟨_, rfl⟩
  · exact ⟨_, rfl⟩

/-- A suggestion is a line break, blanks, and the comment with the tag. -/
theorem Check.toList_suggestion
    (prototype : Prototype)
    (column : Nat)
    (name : String)
    (parameter : Parameter) :
    (suggestion prototype column name parameter).toList =
      '\n' :: (List.replicate column ' ' ++ ['#', ' '] ++
        (prototype.format name parameter.documentedType).toList) := by
  simp [suggestion]

theorem isBlank_of_mem_replicate
    {count : Nat}
    {c : Char}
    (member : c ∈ List.replicate count ' ') :
    isBlank c = true := by
  rw [List.eq_of_mem_replicate member]
  rfl

/-- A line that holds a suggestion, with some of its blanks or none, is the line
of a generated tag. -/
theorem CommentLine.isGenerated_of_text
    {comment : CommentLine}
    {prototype : Prototype}
    {name : String}
    {blanks : List Char}
    (isWord : IsWord name.toList)
    (parameter : Parameter)
    (allBlank : ∀ c ∈ blanks, isBlank c = true)
    (text : comment.text.toList = blanks ++ ['#', ' '] ++
      (prototype.format name parameter.documentedType).toList) :
    comment.IsGenerated prototype name parameter.documentedType := by
  obtain ⟨literal, typesEq⟩ := parameter.exists_documentedType_eq
  refine ⟨isWord, ?_, blanks, allBlank, text⟩
  rw [typesEq]
  exact literal.isBalanced_documentedType

end DocLint
