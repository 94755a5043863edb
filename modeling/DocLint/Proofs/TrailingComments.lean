import DocLint.Proofs.TagBlocks
import DocLint.Proofs.TypeList
import DocLint.Checker
import Mathlib.Data.List.Forall2

/-!
# Comments that trail code

Lines that trail code take no part in a comment.  Without them every tag has
another index, but the index still leads to the line that the tag starts on, and
nothing else of a tag depends on it.  So the findings are the same whatever
lines that trail code are put between the leading ones.
-/

namespace DocLint

/-- A declaration whose comment has its leading lines only. -/
def Declaration.withoutTrailing (declaration : Declaration) : Declaration :=
  { declaration with
    comments := declaration.comments.filter CommentLine.leading }

/-! ## The tags of two comments -/

/-- Tags of two comments that differ in their index only, and whose indices lead
to the same line. -/
def SameTag
    (comments others : List CommentLine)
    (tag other : Tag) : Prop :=
  ∃ index, other = { tag with lineIndex := index } ∧
    others[index]? = comments[tag.lineIndex]?

/-- One comment line with its index in two comments. -/
structure SameLine
    (comments others : List CommentLine)
    (line other : CommentLine × Nat) : Prop where
  comment : other.1 = line.1
  indexed : comments[line.2]? = some line.1
  otherIndexed : others[other.2]? = some other.1

section SameTags

variable {comments others : List CommentLine}

/-- The index of a tag is all that depends on where the tag starts. -/
theorem Tag.ofBody_eq
    (index other : Nat)
    (directive : String)
    (body : Body) :
    ofBody other directive body =
      { ofBody index directive body with lineIndex := other } := by
  unfold ofBody
  split <;> rfl

/-- The lines that continue a tag do not depend on their indices. -/
theorem map_takeWhile_continues
    {lines otherLines : List (CommentLine × Nat)}
    (same : List.Forall₂ (SameLine comments others) lines otherLines)
    (indent : Nat) :
    ((otherLines.takeWhile fun line => line.1.continues indent).map
        fun line => line.1.continuationLine) =
      (lines.takeWhile fun line => line.1.continues indent).map
        fun line => line.1.continuationLine := by
  induction same with
  | nil => rfl
  | @cons line other _ _ first _ hypothesis =>
      rw [List.takeWhile_cons, List.takeWhile_cons, first.comment]
      split
      · rw [List.map_cons, List.map_cons, hypothesis, first.comment]
      · rfl

theorem forall₂_sameTag_ofLines
    {lines otherLines : List (CommentLine × Nat)}
    (same : List.Forall₂ (SameLine comments others) lines otherLines) :
    List.Forall₂ (SameTag comments others) (Tag.ofLines lines)
      (Tag.ofLines otherLines) := by
  induction same with
  | nil => exact .nil
  | @cons line other rest otherRest first further hypothesis =>
      obtain ⟨comment, index⟩ := line
      obtain ⟨otherComment, otherIndex⟩ := other
      obtain ⟨rfl, indexed, otherIndexed⟩ := first
      rw [Tag.ofLines, Tag.ofLines]
      cases otherComment.directive? with
      | none => exact hypothesis
      | some cut =>
          refine .cons ⟨otherIndex, ?_, ?_⟩ hypothesis
          · rw [map_takeWhile_continues further]
            exact Tag.ofBody_eq index otherIndex _ _
          · rw [Tag.lineIndex_ofBody, indexed, otherIndexed]

/-- Comments with the same leading lines have the same lines to read tags
from. -/
theorem forall₂_sameLine
    (same : others.filter CommentLine.leading =
      comments.filter CommentLine.leading) :
    List.Forall₂ (SameLine comments others)
      (comments.zipIdx.filter fun line => line.1.leading)
      (others.zipIdx.filter fun line => line.1.leading) := by
  rw [← TagBlock.map_fst_filter_zipIdx others 0,
    ← TagBlock.map_fst_filter_zipIdx comments 0] at same
  have firsts := List.forall₂_eq_eq_eq ▸ same.symm
  rw [List.forall₂_map_left_iff, List.forall₂_map_right_iff,
    List.forall₂_iff_zip] at firsts
  obtain ⟨lengths, equal⟩ := firsts
  have indexedIn {comments : List CommentLine} {line : CommentLine × Nat}
      (member : line ∈ comments.zipIdx.filter fun line => line.1.leading) :
      comments[line.2]? = some line.1 :=
    List.mk_mem_zipIdx_iff_getElem?.mp (List.mem_filter.mp member).1
  refine List.forall₂_iff_zip.mpr ⟨lengths, ?_⟩
  intro line other paired
  obtain ⟨member, otherMember⟩ := List.of_mem_zip paired
  exact ⟨(equal paired).symm, indexedIn member, indexedIn otherMember⟩

theorem forall₂_sameTag_extract
    (same : others.filter CommentLine.leading =
      comments.filter CommentLine.leading) :
    List.Forall₂ (SameTag comments others) (Tag.extract comments)
      (Tag.extract others) :=
  forall₂_sameTag_ofLines (forall₂_sameLine same)

end SameTags

/-- The last leading line is the last of the leading lines. -/
theorem lastLeading?_eq (comments : List CommentLine) :
    lastLeading? comments =
      (comments.filter CommentLine.leading).getLast? := by
  rw [lastLeading?, ← List.head?_filter, List.filter_reverse,
    List.head?_reverse]

/-! ## What the checks see of a tag

A check looks at the fields of a tag other than its index, and at the line that
the index leads to. -/

namespace Check

section SameTags

variable {α : Type}
variable {comments others : List CommentLine}
variable {tags otherTags : List Tag}
variable (same : List.Forall₂ (SameTag comments others) tags otherTags)

include same

theorem flatMap_of_sameTag
    {look : Tag → List α}
    (sees : ∀ tag index, look { tag with lineIndex := index } = look tag) :
    otherTags.flatMap look = tags.flatMap look := by
  induction same with
  | nil => rfl
  | cons first _ hypothesis =>
      obtain ⟨index, rfl, _⟩ := first
      rw [List.flatMap_cons, List.flatMap_cons, sees, hypothesis]

theorem filterMap_of_sameTag
    {look otherLook : Tag → Option α}
    (sees : ∀ tag index, others[index]? = comments[tag.lineIndex]? →
      otherLook { tag with lineIndex := index } = look tag) :
    otherTags.filterMap otherLook = tags.filterMap look := by
  induction same with
  | nil => rfl
  | cons first _ hypothesis =>
      obtain ⟨index, rfl, comment⟩ := first
      rw [List.filterMap_cons, List.filterMap_cons, sees _ index comment,
        hypothesis]

theorem forall₂_filter_of_sameTag
    {holds : Tag → Bool}
    (sees : ∀ tag index, holds { tag with lineIndex := index } = holds tag) :
    List.Forall₂ (SameTag comments others) (tags.filter holds)
      (otherTags.filter holds) := by
  refine List.rel_filter ?_ same
  rintro tag _ ⟨index, rfl, _⟩
  dsimp only
  rw [sees tag index]

theorem any_of_sameTag
    {holds : Tag → Bool}
    (sees : ∀ tag index, holds { tag with lineIndex := index } = holds tag) :
    otherTags.any holds = tags.any holds := by
  induction same with
  | nil => rfl
  | cons first _ hypothesis =>
      obtain ⟨index, rfl, _⟩ := first
      rw [List.any_cons, List.any_cons, sees, hypothesis]

theorem tagPositions_of_sameTag :
    tagPositions others otherTags = tagPositions comments tags := by
  apply filterMap_of_sameTag same
  intro tag index comment
  rw [comment]

theorem documentedNames_of_sameTag :
    documentedNames otherTags = documentedNames tags := by
  have documenting : List.Forall₂ (SameTag comments others)
      (tags.filter Tag.documentsParameter)
      (otherTags.filter Tag.documentsParameter) :=
    forall₂_filter_of_sameTag same fun _ _ => rfl
  have names : (otherTags.filter Tag.documentsParameter).filterMap Tag.name =
      (tags.filter Tag.documentsParameter).filterMap Tag.name :=
    filterMap_of_sameTag documenting fun _ _ _ => rfl
  rw [documentedNames, documentedNames, names]

end SameTags

section Declarations

variable {declaration : Declaration}
variable {others : List CommentLine}
variable {tags otherTags : List Tag}
variable (same : List.Forall₂ (SameTag declaration.comments others) tags
  otherTags)

include same

theorem reconciledTags_of_sameTag :
    reconciledTags { declaration with comments := others } otherTags =
      reconciledTags declaration tags := by
  apply filterMap_of_sameTag (forall₂_filter_of_sameTag same fun _ _ => rfl)
  intro tag index comment
  dsimp only
  rw [comment]
  rfl

theorem undocumentedArguments_of_sameTag
    (last : lastLeading? others = lastLeading? declaration.comments)
    (prototype : Prototype) :
    undocumentedArguments { declaration with comments := others } otherTags
        prototype =
      undocumentedArguments declaration tags prototype := by
  unfold undocumentedArguments
  rw [any_of_sameTag same (fun _ _ => rfl), last,
    documentedNames_of_sameTag same]

theorem arguments_of_sameTag
    (last : lastLeading? others = lastLeading? declaration.comments)
    (prototype : Prototype) :
    arguments { declaration with comments := others } otherTags prototype =
      arguments declaration tags prototype := by
  unfold arguments
  rw [any_of_sameTag same (fun _ _ => rfl), reconciledTags_of_sameTag same,
    undocumentedArguments_of_sameTag same last]

theorem meaninglessTags_of_sameTag :
    meaninglessTags { declaration with comments := others } otherTags =
      meaninglessTags declaration tags := by
  unfold meaninglessTags
  congr 1
  apply filterMap_of_sameTag (forall₂_filter_of_sameTag same fun _ _ => rfl)
  intro tag index comment
  dsimp only
  rw [comment]

end Declarations
end Check

/-! ## The findings do not depend on trailing lines -/

/-- Comments with the same leading lines have the same findings. -/
theorem Settings.allFindings_of_leading
    (settings : Settings)
    {declaration : Declaration}
    {others : List CommentLine}
    (same : others.filter CommentLine.leading =
      declaration.comments.filter CommentLine.leading) :
    settings.allFindings { declaration with comments := others } =
      settings.allFindings declaration := by
  have sameTags := forall₂_sameTag_extract same
  have last : lastLeading? others = lastLeading? declaration.comments := by
    rw [lastLeading?_eq, lastLeading?_eq, same]
  unfold allFindings
  dsimp only
  rw [Check.flatMap_of_sameTag sameTags fun _ _ => rfl,
    Check.tagPositions_of_sameTag sameTags,
    Check.arguments_of_sameTag sameTags last,
    Check.meaninglessTags_of_sameTag sameTags]

/-- Lines that trail code change no finding: a declaration has the same findings
without them, and with any other lines that trail code between its leading
lines. -/
theorem check_withoutTrailing
    (config : Config)
    (declaration : Declaration) :
    (Checker.mk config none).check declaration.withoutTrailing =
        (Checker.mk config none).check declaration ∧
      ∀ others : List CommentLine,
        others.filter CommentLine.leading =
          declaration.comments.filter CommentLine.leading →
        (Checker.mk config none).check
            { declaration with comments := others } =
          (Checker.mk config none).check declaration := by
  have unchanged (others : List CommentLine)
      (same : others.filter CommentLine.leading =
        declaration.comments.filter CommentLine.leading) :
      (Checker.mk config none).check { declaration with comments := others } =
        (Checker.mk config none).check declaration := by
    unfold Checker.check Settings.check
    rw [Settings.allFindings_of_leading _ same]
  refine ⟨?_, unchanged⟩
  apply unchanged
  rw [List.filter_filter]
  simp only [Bool.and_self]

/-! ## A tag that goes on behind a trailing line -/

/-- A method whose tag goes on behind a line that trails code. -/
def interrupted : Declaration where
  kind := .method
  name := "fetch"
  line := 6
  column := 2
  parameters := [⟨some "key", .required, none⟩, ⟨some "rest", .rest, none⟩]
  comments :=
    [⟨1, 20, "# @return [(é)]", false⟩, ⟨2, 2, "# @param [String,", true⟩,
      ⟨3, 20, "# not a type", false⟩, ⟨4, 2, "#   <Symbol>] key", true⟩,
      ⟨5, 20, "# @param rest", false⟩]

/-- The style of the second type and the missing tag are found, whether or not
lines that trail code stand before, within and behind the tag. -/
theorem check_withoutTrailing_interrupted :
    ((Checker.mk {} none).check interrupted).map Finding.correction =
        [some ⟨⟨4, 6, 14⟩, "Array<Symbol>"⟩,
          some ⟨⟨4, 19, 19⟩, "\n  # @param [Array<Object>] rest"⟩] ∧
      (Checker.mk {} none).check
          { interrupted with comments :=
            [⟨2, 2, "# @param [String,", true⟩,
              ⟨4, 2, "#   <Symbol>] key", true⟩,
              ⟨3, 20, "# @overload fetch", false⟩] } =
        (Checker.mk {} none).check interrupted := by
  refine ⟨by decide +kernel, ?_⟩
  exact (check_withoutTrailing {} interrupted).2 _ (by decide +kernel)

end DocLint
