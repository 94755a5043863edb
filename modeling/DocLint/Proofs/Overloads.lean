import DocLint.Check.Arguments
import DocLint.Proofs.TagExtraction
import DocLint.Proofs.TagInvariants
import DocLint.Proofs.Words

/-!
# Methods with overloads

A method that documents overloads is left alone by the check of its parameters.
Whether a tag is for an overload is told by its kind, and the kind is first
asked of the text: a tag whose text refers to other documentation is a
reference, with any directive.  So an overload counts unless its text is a
reference, and where all of them are, the method is checked as if they were not
there.
-/

namespace DocLint

open Text

/-! ## References -/

/-- From its opening parenthesis on, a text points somewhere: the word `see`, a
word for what is meant, and the closing parenthesis. -/
def Points (text : List Char) : Prop :=
  ∃ indent space target gap rest : List Char,
    text = '(' :: (indent ++ 's' :: 'e' :: 'e' ::
      (space ++ (target ++ (gap ++ ')' :: rest)))) ∧
    (∀ c ∈ indent ++ space ++ gap ++ rest, isBlank c = true) ∧ space ≠ [] ∧
    (∀ c ∈ target, isBlank c = false) ∧ target ≠ []

/-- A text refers to other documentation: it points there, perhaps behind one
word. -/
inductive RefersElsewhere : List Char → Prop
  | bare {indent reference : List Char} :
      (∀ c ∈ indent, isBlank c = true) →
      Points reference →
      RefersElsewhere (indent ++ reference)
  | named {indent word gap reference : List Char} :
      (∀ c ∈ indent ++ gap, isBlank c = true) → gap ≠ [] →
      (∀ c ∈ word, isBlank c = false) → word ≠ [] →
      Points reference →
      RefersElsewhere (indent ++ (word ++ (gap ++ reference)))

/-- What points somewhere does not start with a blank. -/
theorem Points.startsOutside
    {text : List Char}
    (points : Points text) :
    StartsOutside isBlank text := by
  obtain ⟨indent, space, target, gap, rest, rfl, _⟩ := points
  exact startsOutside_cons (by decide) _

/-- Only blanks stand around a parenthesis that is all of a text. -/
theorem trim_eq_closing_iff
    {text : List Char} :
    trim text = [')'] ↔
      ∃ gap rest, text = gap ++ ')' :: rest ∧
        ∀ c ∈ gap ++ rest, isBlank c = true := by
  constructor
  · intro trimmed
    obtain ⟨gap, rest, textEq, allBlank⟩ := exists_append_trim text
    rw [trimmed] at textEq
    exact ⟨gap, rest, textEq, allBlank⟩
  · rintro ⟨gap, rest, rfl, allBlank⟩
    obtain ⟨gapBlank, restBlank⟩ := List.forall_mem_append.mp allBlank
    have behind : trimStart (gap ++ ')' :: rest) = ')' :: rest :=
      dropWhile_append gapBlank (startsOutside_cons (by decide) rest)
    have reversed : (')' :: rest).reverse = rest.reverse ++ [')'] :=
      List.reverse_cons
    have restReversed : ∀ c ∈ rest.reverse, isBlank c = true := by
      simpa using restBlank
    rw [trim, behind, trimEnd, reversed,
      dropWhile_append restReversed (startsOutside_cons (by decide) [])]
    rfl

namespace Cutting

/-- The end of a reference is told by the word behind `see` and by what follows
it. -/
theorem isReferenceTail_of_isWordCut
    {indent space word after : List Char}
    (indentBlank : ∀ c ∈ indent, isBlank c = true)
    (isWordCut : IsWordCut space word after) :
    isReferenceTail (indent ++ 's' :: 'e' :: 'e' :: (space ++ (word ++ after))) =
        true ↔
      space ≠ [] ∧ (trim after = [')'] ∨
        2 ≤ word.length ∧ word.getLast? = some ')' ∧
          ∀ c ∈ after, isBlank c = true) := by
  have behind : trimStart
      (indent ++ 's' :: 'e' :: 'e' :: (space ++ (word ++ after))) =
      's' :: 'e' :: 'e' :: (space ++ (word ++ after)) :=
    dropWhile_append indentBlank (startsOutside_cons (by decide) _)
  unfold isReferenceTail
  simp only [behind]
  rw [isWordCut.leadingBlanks_eq, isWordCut.trimStart_eq,
    isWordCut.leadingWord_eq, isWordCut.afterWord_eq]
  simp [isWordCut.nonempty, and_assoc]

/-- In front of the end of a reference there is the word `see`, and a word
behind it. -/
theorem exists_isWordCut_of_isReferenceTail
    {text : List Char}
    (isTail : isReferenceTail text = true) :
    ∃ indent space word after,
      text = indent ++ 's' :: 'e' :: 'e' :: (space ++ (word ++ after)) ∧
      (∀ c ∈ indent, isBlank c = true) ∧ IsWordCut space word after := by
  have whole := leadingBlanks_append_trimStart text
  unfold isReferenceTail at isTail
  split at isTail
  · rename_i more trimmed
    rw [trimmed] at whole
    rcases blank_or_isWordCut more with allBlank | cut
    · have noWord : trimStart more = [] :=
        List.dropWhile_eq_nil_iff.mpr allBlank
      rw [noWord] at isTail
      exact absurd isTail (by simp [leadingWord])
    · obtain ⟨space, word, after, rfl, isWordCut⟩ := cut
      exact ⟨leadingBlanks text, space, word, after, whole.symm,
        fun c => List.mem_takeWhile_imp, isWordCut⟩
  · exact absurd isTail (by simp)

/-- The closing parenthesis stands behind the word for what is meant, or is the
last character of what stands there. -/
theorem isReference_iff
    {text : List Char} :
    isReference text = true ↔ Points text := by
  constructor
  · intro refers
    unfold isReference at refers
    split at refers
    · obtain ⟨indent, space, word, after, rfl, indentBlank, isWordCut⟩ :=
        exists_isWordCut_of_isReferenceTail refers
      obtain ⟨apart, alone | ⟨long, last, afterBlank⟩⟩ :=
        (isReferenceTail_of_isWordCut indentBlank isWordCut).mp refers
      · obtain ⟨gap, rest, rfl, aroundBlank⟩ := trim_eq_closing_iff.mp alone
        refine ⟨indent, space, word, gap, rest, rfl, ?_, apart,
          isWordCut.notBlank, isWordCut.nonempty⟩
        have spaceBlank := isWordCut.allBlank
        simp only [List.forall_mem_append] at aroundBlank ⊢
        exact ⟨⟨⟨indentBlank, spaceBlank⟩, aroundBlank.1⟩, aroundBlank.2⟩
      · obtain ⟨target, rfl⟩ := List.getLast?_eq_some_iff.mp last
        have targetNonempty : target ≠ [] := by
          rintro rfl
          exact absurd long (by simp)
        refine ⟨indent, space, target, [], after, by simp, ?_, apart,
          fun c member => isWordCut.notBlank c (by simp [member]),
          targetNonempty⟩
        have spaceBlank := isWordCut.allBlank
        simp only [List.append_nil, List.forall_mem_append]
        exact ⟨⟨indentBlank, spaceBlank⟩, afterBlank⟩
    · exact absurd refers (by simp)
  · rintro ⟨indent, space, target, gap, rest, rfl, allBlank, apart, notBlank,
      nonempty⟩
    simp only [List.forall_mem_append] at allBlank
    obtain ⟨⟨⟨indentBlank, spaceBlank⟩, gapBlank⟩, restBlank⟩ := allBlank
    rw [isReference]
    cases gap with
    | nil =>
        have isWordCut : IsWordCut space (target ++ [')']) rest :=
          { allBlank := spaceBlank
            notBlank := List.forall_mem_append.mpr
              ⟨notBlank, List.forall_mem_singleton.mpr (by decide)⟩
            nonempty := by simp
            apart := fun c head => by
              simp [restBlank c (List.mem_of_head? head)] }
        have long : 2 ≤ (target ++ [')']).length := by
          have some := List.length_pos_iff.mpr nonempty
          rw [List.length_append, List.length_singleton]
          omega
        have isTail := (isReferenceTail_of_isWordCut indentBlank isWordCut).mpr
          ⟨apart, Or.inr ⟨long, List.getLast?_concat, restBlank⟩⟩
        rwa [List.append_assoc] at isTail
    | cons c more =>
        have isWordCut : IsWordCut space target ((c :: more) ++ ')' :: rest) :=
          { allBlank := spaceBlank
            notBlank
            nonempty
            apart := startsOutside_cons
              (by simp [gapBlank c List.mem_cons_self]) _ }
        exact (isReferenceTail_of_isWordCut indentBlank isWordCut).mpr
          ⟨apart, Or.inl (trim_eq_closing_iff.mpr
            ⟨c :: more, rest, rfl, List.forall_mem_append.mpr
              ⟨gapBlank, restBlank⟩⟩)⟩

/-- A text is read as a reference exactly if it is one. -/
theorem reference?_isSome_iff
    {text : List Char} :
    (reference? text).isSome = true ↔ RefersElsewhere text := by
  constructor
  · intro found
    have whole := leadingBlanks_append_trimStart text
    have indentBlank : ∀ c ∈ leadingBlanks text, isBlank c = true :=
      fun c => List.mem_takeWhile_imp
    unfold reference? at found
    dsimp only at found
    split at found
    · rename_i isNamed
      simp only [Bool.and_eq_true, Bool.not_eq_true', List.isEmpty_eq_false_iff]
        at isNamed
      obtain ⟨⟨hasWord, apart⟩, refers⟩ := isNamed
      have behindWord :=
        leadingBlanks_append_trimStart (afterWord (trimStart text))
      rw [← leadingWord_append_afterWord (trimStart text), ← behindWord]
        at whole
      rw [← whole]
      refine .named ?_ apart ?_ hasWord (isReference_iff.mp refers)
      · exact List.forall_mem_append.mpr
          ⟨indentBlank, fun c => List.mem_takeWhile_imp⟩
      · intro c member
        simpa using List.mem_takeWhile_imp member
    · split at found
      · rename_i refers
        rw [← whole]
        exact .bare indentBlank (isReference_iff.mp refers)
      · exact absurd found (by simp)
  · intro refers
    cases refers with
    | bare indentBlank points =>
        have behind := dropWhile_append indentBlank points.startsOutside
        rw [← trimStart] at behind
        unfold reference?
        simp only [behind, isReference_iff.mpr points]
        split
        · rfl
        · rfl
    | @named indent word gap reference allBlank apart notBlank nonempty points =>
        obtain ⟨indentBlank, gapBlank⟩ := List.forall_mem_append.mp allBlank
        have isWordCut : IsWordCut indent word (gap ++ reference) :=
          { allBlank := indentBlank
            notBlank
            nonempty
            apart := by
              obtain ⟨c, more, rfl⟩ := List.exists_cons_of_ne_nil apart
              exact startsOutside_cons
                (by simp [gapBlank c List.mem_cons_self]) _ }
        have inFront := takeWhile_append gapBlank points.startsOutside
        have behind := dropWhile_append gapBlank points.startsOutside
        rw [← leadingBlanks] at inFront
        rw [← trimStart] at behind
        unfold reference?
        dsimp only
        rw [isWordCut.trimStart_eq, isWordCut.leadingWord_eq,
          isWordCut.afterWord_eq, inFront, behind, isReference_iff.mpr points]
        simp [nonempty, apart]

end Cutting

/-! ## Tags for overloads -/

namespace TagKind

theorem ofDirective_ne_reference (directive : String) :
    ofDirective directive ≠ .reference := by
  unfold ofDirective
  grind

theorem ofDirective_eq_overload_iff
    {directive : String} :
    ofDirective directive = .overload ↔ directive = "overload" := by
  unfold ofDirective
  grind

end TagKind

namespace Tag

/-- A tag is a reference exactly if its text is one, whatever its directive. -/
theorem kind_ofBody_eq_reference_iff
    {index : Nat}
    {directive : String}
    {body : Body} :
    (ofBody index directive body).kind = .reference ↔
      RefersElsewhere body.chars := by
  rw [← Cutting.reference?_isSome_iff]
  unfold ofBody
  cases Cutting.reference? body.chars with
  | some name => simp
  | none =>
      have announced := TagKind.ofDirective_ne_reference directive
      simp [announced]

section OfComment

variable {comments : List CommentLine}
variable {tag : Tag}

theorem kind_eq_reference_iff
    (member : tag ∈ extract comments) :
    tag.kind = .reference ↔ RefersElsewhere tag.text.toList := by
  obtain ⟨block, _, rfl⟩ := TagBlock.exists_of_mem_extract member
  rw [TagBlock.tag, text_ofBody, String.toList_ofList,
    kind_ofBody_eq_reference_iff]

/-- A tag is for an overload exactly if it has that directive and its text is no
reference. -/
theorem kind_eq_overload_iff
    (member : tag ∈ extract comments) :
    tag.kind = .overload ↔
      tag.directive = "overload" ∧ ¬ RefersElsewhere tag.text.toList := by
  rw [← kind_eq_reference_iff member]
  obtain ⟨block, _, rfl⟩ := TagBlock.exists_of_mem_extract member
  have directive : block.tag.directive = String.ofList block.cut.directive :=
    directive_ofBody _ _ _
  rw [directive]
  rcases kind_ofBody block.index (String.ofList block.cut.directive)
    block.body with isReference | announced
  · rw [TagBlock.tag, isReference]
    simp
  · rw [TagBlock.tag, announced, TagKind.ofDirective_eq_overload_iff]
    simp [TagKind.ofDirective_ne_reference]

end OfComment

end Tag

/-- What a comment says about its tags is what is extracted. -/
theorem TagEntry.isReadFrom_iff_exists_mem_extract
    {comments : List CommentLine}
    {entry : TagEntry} :
    entry.IsReadFrom comments ↔
      ∃ tag ∈ Tag.extract comments, tag.entry = entry := by
  rw [isReadFrom_iff, ← TagBlock.map_tag_ofComments]
  simp

namespace Check

/-- Tags for overloads document no parameter. -/
theorem documentsParameter_and_ne_overload (tag : Tag) :
    (tag.documentsParameter && tag.directive != "overload") =
      tag.documentsParameter := by
  unfold Tag.documentsParameter
  grind

/-! ## What is found without the tags for overloads -/

section WithoutOverloads

variable (declaration : Declaration)
variable (tags : List Tag)

theorem reconciledTags_filter_overload :
    reconciledTags declaration (tags.filter (·.directive != "overload")) =
      reconciledTags declaration tags := by
  unfold reconciledTags
  rw [List.filter_filter]
  congr 1
  apply List.filter_congr
  intro tag _
  have documents := documentsParameter_and_ne_overload tag
  unfold isReconciled
  grind

theorem documentedNames_filter_overload :
    documentedNames (tags.filter (·.directive != "overload")) =
      documentedNames tags := by
  unfold documentedNames
  rw [List.filter_filter]
  congr 2
  apply List.filter_congr
  intro tag _
  exact documentsParameter_and_ne_overload tag

variable {tags}

theorem undocumentedArguments_filter_overload
    (areReferences : ∀ tag ∈ tags, tag.directive = "overload" →
      tag.kind = .reference)
    (prototype : Prototype) :
    undocumentedArguments declaration
        (tags.filter (·.directive != "overload")) prototype =
      undocumentedArguments declaration tags prototype := by
  have isDocumented :
      ((tags.filter (·.directive != "overload")).any fun tag =>
        tag.kind == .param || tag.directive == "option") =
      tags.any fun tag => tag.kind == .param || tag.directive == "option" := by
    rw [List.any_filter, Bool.eq_iff_iff, List.any_eq_true, List.any_eq_true]
    refine exists_congr fun tag => and_congr_right fun isTag => ?_
    have isReference := areReferences tag isTag
    grind
  unfold undocumentedArguments
  rw [isDocumented, documentedNames_filter_overload]

/-- Tags for overloads that are references change nothing. -/
theorem arguments_filter_overload
    (areReferences : ∀ tag ∈ tags, tag.directive = "overload" →
      tag.kind = .reference)
    (noOverload : ∀ tag ∈ tags, tag.kind ≠ .overload)
    (prototype : Prototype) :
    arguments declaration (tags.filter (·.directive != "overload")) prototype =
      arguments declaration tags prototype := by
  have counted : ∀ others : List Tag, others ⊆ tags →
      (others.any fun tag => tag.kind == .overload) = false := by
    intro others areTags
    simpa using fun tag isOther => noOverload tag (areTags isOther)
  unfold arguments
  rw [reconciledTags_filter_overload,
    undocumentedArguments_filter_overload declaration areReferences,
    counted tags (List.Subset.refl tags),
    counted _ (List.filter_subset_self tags)]

end WithoutOverloads

/-- A tag for an overload leaves its declaration alone, unless its text refers
to other documentation.  Where all of them do, the declaration is checked as if
it had none. -/
theorem arguments_of_overloads
    (declaration : Declaration)
    (prototype : Prototype) :
    (∀ entry : TagEntry, entry.IsReadFrom declaration.comments →
      entry.directive = "overload" →
      ¬ RefersElsewhere entry.text.toList →
      arguments declaration (Tag.extract declaration.comments) prototype = []) ∧
    ((∀ entry : TagEntry, entry.IsReadFrom declaration.comments →
        entry.directive = "overload" → RefersElsewhere entry.text.toList) →
      arguments declaration (Tag.extract declaration.comments) prototype =
        arguments declaration
          ((Tag.extract declaration.comments).filter
            (·.directive != "overload"))
          prototype) := by
  constructor
  · intro entry isRead isOverload notElsewhere
    obtain ⟨tag, isTag, rfl⟩ :=
      TagEntry.isReadFrom_iff_exists_mem_extract.mp isRead
    have overload := (Tag.kind_eq_overload_iff isTag).mpr
      ⟨isOverload, notElsewhere⟩
    refine if_pos (Or.inr (Or.inr ?_))
    exact List.any_eq_true.mpr ⟨tag, isTag, beq_iff_eq.mpr overload⟩
  · intro allElsewhere
    have elsewhere : ∀ tag ∈ Tag.extract declaration.comments,
        tag.directive = "overload" → RefersElsewhere tag.text.toList := by
      intro tag isTag
      exact allElsewhere tag.entry
        (TagEntry.isReadFrom_iff_exists_mem_extract.mpr ⟨tag, isTag, rfl⟩)
    refine (arguments_filter_overload declaration ?_ ?_ prototype).symm
    · intro tag isTag isOverload
      exact (Tag.kind_eq_reference_iff isTag).mpr (elsewhere tag isTag isOverload)
    · intro tag isTag overload
      obtain ⟨isOverload, notElsewhere⟩ :=
        (Tag.kind_eq_overload_iff isTag).mp overload
      exact notElsewhere (elsewhere tag isTag isOverload)

/-- A method with one parameter.  Its comment starts with the given lines and
ends with a tag for another name. -/
def withOverload (overload : List CommentLine) : Declaration where
  kind := .method
  name := "fetch"
  line := 4
  column := 0
  parameters := [⟨some "a", .required, none⟩]
  comments := overload ++ [⟨3, 0, "# @param [String] b", true⟩]

/-- An overload with a signature. -/
def signature : List CommentLine :=
  [⟨1, 0, "# @overload fetch(key)", true⟩, ⟨2, 0, "#   Looks it up.", true⟩]

/-- An overload with a signature that is documented elsewhere. -/
def referred : List CommentLine :=
  [⟨1, 0, "# @overload fetch(key)", true⟩, ⟨2, 0, "#   (see #lookup)", true⟩]

/-- The signature alone leaves the method alone; with a reference behind it, it
counts for nothing. -/
theorem arguments_of_overloads_signature :
    arguments (withOverload signature)
        (Tag.extract (withOverload signature).comments) .typeFirst = [] ∧
      arguments (withOverload referred)
          (Tag.extract (withOverload referred).comments) .typeFirst =
        arguments (withOverload referred)
          ((Tag.extract (withOverload referred).comments).filter
            (·.directive != "overload"))
          .typeFirst := by
  constructor
  · have notElsewhere : ¬ RefersElsewhere
        " fetch(key)\n  Looks it up.".toList := by
      rw [← Cutting.reference?_isSome_iff]
      decide +kernel
    have isRead : TagEntry.IsReadFrom (withOverload signature).comments
        ⟨0, "overload", " fetch(key)\n  Looks it up."⟩ :=
      TagEntry.isReadFrom_iff_exists_mem_extract.mpr (by decide +kernel)
    exact (arguments_of_overloads (withOverload signature) .typeFirst).1 _
      isRead rfl notElsewhere
  · apply (arguments_of_overloads (withOverload referred) .typeFirst).2
    intro entry isRead isOverload
    obtain ⟨tag, isTag, rfl⟩ :=
      TagEntry.isReadFrom_iff_exists_mem_extract.mp isRead
    have found : ∀ tag ∈ Tag.extract (withOverload referred).comments,
        tag.entry.directive = "overload" →
        (Cutting.reference? tag.entry.text.toList).isSome = true := by
      decide +kernel
    exact Cutting.reference?_isSome_iff.mp (found tag isTag isOverload)

/-- A method is not left alone for every tag line with the directive for
overloads. -/
theorem arguments_of_referred_overload :
    (withOverload referred).kind = .method ∧
      (withOverload referred).parameters ≠ [] ∧
      TagEntry.IsReadFrom (withOverload referred).comments
        ⟨0, "overload", " fetch(key)\n  (see #lookup)"⟩ ∧
      (arguments (withOverload referred)
        (Tag.extract (withOverload referred).comments) .typeFirst).map
          Finding.message =
        ["`b` is not found in method arguments of [a]",
          "This method has argument `a`, But not documented"] := by
  refine ⟨rfl, by decide, ?_, by decide +kernel⟩
  exact TagEntry.isReadFrom_iff_exists_mem_extract.mpr (by decide +kernel)

end Check

end DocLint
