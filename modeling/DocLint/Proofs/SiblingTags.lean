import DocLint.Proofs.FindingOrigins
import DocLint.Proofs.GeneratedTags
import DocLint.Proofs.TagExtraction
import DocLint.Proofs.TagPlaces
import DocLint.Proofs.TrailingComments

/-!
# Tags do not disturb each other

Where a tag starts, a comment can be taken apart.  No text in front of it, not
even brackets that are left open, belongs to it or changes how it is read: the
tags of the whole are those of the two parts, and so are the findings for types
and for their positions.  Only the lines are counted on.
-/

namespace DocLint

/-- A tag of a comment in front of which there are further lines. -/
def Tag.later (count : Nat) (tag : Tag) : Tag :=
  { tag with lineIndex := tag.lineIndex + count }

namespace Tag

theorem ofLines_later
    (count : Nat)
    (lines : List (CommentLine × Nat)) :
    ofLines (lines.map (Prod.map id (· + count))) =
      (ofLines lines).map (later count) := by
  induction lines with
  | nil => rfl
  | cons line rest hypothesis =>
      obtain ⟨comment, index⟩ := line
      rw [List.map_cons, Prod.map_apply, id_eq, ofLines, ofLines, hypothesis]
      split
      · rfl
      · rename_i cut _
        dsimp only
        rw [List.map_cons, List.takeWhile_map, List.map_map,
          ofBody_eq index (index + count), later, lineIndex_ofBody]
        rfl

/-- Counting the lines from a number on counts each of them later. -/
theorem zipIdx_later
    (comments : List CommentLine)
    (count : Nat) :
    comments.zipIdx count = comments.zipIdx.map (Prod.map id (· + count)) := by
  rw [List.zipIdx_eq_map_add]
  apply List.map_congr_left
  intro line _
  rw [Prod.map_apply, id_eq, Nat.add_comm]

theorem tagTypes_later
    (style : Style)
    (count : Nat)
    (tag : Tag) :
    Check.tagTypes style (tag.later count) = Check.tagTypes style tag :=
  rfl

section Appended

variable {front back : List CommentLine}

/-- The lines in front are the lines of their own tags. -/
theorem tagPositions_append_left :
    Check.tagPositions (front ++ back) (extract front) =
      Check.tagPositions front (extract front) := by
  apply List.filterMap_congr
  intro tag member
  obtain ⟨comment, _, indexed, _⟩ := exists_comment member
  rw [List.getElem?_append_left (List.getElem?_eq_some_iff.mp indexed).1]

/-- The lines behind are found where they are counted. -/
theorem tagPositions_later (tags : List Tag) :
    Check.tagPositions (front ++ back) (tags.map (later front.length)) =
      Check.tagPositions back tags := by
  rw [Check.tagPositions, List.filterMap_map]
  apply List.filterMap_congr
  intro tag _
  rw [Function.comp_apply, later,
    List.getElem?_append_right (Nat.le_add_left _ _), Nat.add_sub_cancel]

variable (starts : ∀ comment,
  (back.filter CommentLine.leading).head? = some comment →
  comment.StartsTag)

include starts

/-- The tags of a comment are those of its parts where the second one starts
with a tag. -/
theorem extract_append :
    extract (front ++ back) =
      extract front ++ (extract back).map (later front.length) := by
  have backStarts : ∀ line,
      ((back.zipIdx front.length).filter fun line => line.1.leading).head? =
        some line → line.1.directive?.isSome = true := by
    intro line head
    have first : (back.filter CommentLine.leading).head? = some line.1 := by
      rw [← TagBlock.map_fst_filter_zipIdx back front.length, List.head?_map,
        head]
      rfl
    exact CommentLine.directive?_isSome_iff.mpr (starts line.1 first)
  calc extract (front ++ back)
      _ = extract front ++ ofLines ((back.zipIdx front.length).filter
            fun line => line.1.leading) := by
        rw [extract, List.zipIdx_append, List.filter_append, Nat.zero_add,
          ofLines_append backStarts]
        rfl
      _ = extract front ++ (extract back).map (later front.length) := by
        rw [zipIdx_later, List.filter_map, ofLines_later]
        rfl

end Appended

/-- Where the first leading line of the back starts a tag, the front is read as
if it stood alone, and so is the back: the tags of the whole are those of the
parts, and the findings for types and for their positions are the findings in
the parts, one after the other. -/
theorem siblings_apart
    {front back : List CommentLine}
    (starts : ∀ comment,
      (back.filter CommentLine.leading).head? = some comment →
      comment.StartsTag) :
    extract (front ++ back) =
        extract front ++ (extract back).map (later front.length) ∧
      (∀ style, (extract (front ++ back)).flatMap (Check.tagTypes style) =
        (extract front).flatMap (Check.tagTypes style) ++
          (extract back).flatMap (Check.tagTypes style)) ∧
      Check.tagPositions (front ++ back) (extract (front ++ back)) =
        Check.tagPositions front (extract front) ++
          Check.tagPositions back (extract back) := by
  refine ⟨extract_append starts, ?_, ?_⟩
  · intro style
    rw [extract_append starts, List.flatMap_append, List.flatMap_map]
    simp only [tagTypes_later]
  · rw [extract_append starts, Check.tagPositions_append,
      tagPositions_append_left, tagPositions_later]

/-- A tag whose types are never closed, with a line that goes on with it. -/
def unclosed : List CommentLine :=
  [⟨1, 2, "# @param [Array<String, key", true⟩,
    ⟨2, 2, "#   which [is open", true⟩]

/-- A tag behind a line that trails code. -/
def sibling : List CommentLine :=
  [⟨3, 20, "# ] no tag", false⟩, ⟨4, 2, "# @return [<Symbol>]", true⟩]

/-- The types that are never closed are an error, and still the types behind
them are read. -/
theorem siblings_apart_unclosed :
    extract (unclosed ++ sibling) =
        extract unclosed ++ (extract sibling).map (later 2) ∧
      ((extract (unclosed ++ sibling)).flatMap
        (Check.tagTypes .long)).map Finding.message =
        ["(SyntaxError) expecting END, got name 'which'",
          "`<Symbol>` is using short style syntax"] := by
  have starts : ∀ comment,
      (sibling.filter CommentLine.leading).head? = some comment →
      comment.StartsTag := by
    rintro comment ⟨⟩
    exact CommentLine.directive?_isSome_iff.mp (by decide +kernel)
  obtain ⟨tags, types, _⟩ := @siblings_apart unclosed sibling starts
  refine ⟨tags, ?_⟩
  rw [types .long]
  decide +kernel

end Tag

end DocLint
