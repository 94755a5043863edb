import Mathlib.Data.List.Basic
import DocLint.Files.Tree

/-!
# The files outside hidden directories

The walk through a tree takes the entries of each directory in the order of
their names and passes over the hidden ones.  Where no directory has a name
twice, the places it gives out are those of the files that are found below no
hidden directory, and they are in order: names are compared one after the other,
and a place in a directory comes before those in the next entry, however their
names go on.
-/

namespace DocLint
namespace FileTree

theorem visibleEntries_eq (entries : List (String × FileTree)) :
    visibleEntries entries =
      (entries.filter fun entry => !isHidden entry.1 entry.2).map
        fun entry => (entry.1, visibleFiles entry.2) := by
  induction entries with
  | nil => rfl
  | cons entry rest hypothesis =>
      obtain ⟨name, tree⟩ := entry
      rw [visibleEntries, hypothesis]
      cases hidden : isHidden name tree <;> simp [hidden]

/-- Entries that stand in the order of their names are walked as they stand. -/
theorem visibleFiles_directory_of_sorted
    {entries : List (String × FileTree)}
    (sorted : entries.Pairwise fun left right => left.1 ≤ right.1) :
    visibleFiles (.directory entries) =
      (visibleEntries entries).flatMap fun entry =>
        entry.2.map (entry.1 :: ·) := by
  have inOrder : (visibleEntries entries).Pairwise fun left right =>
      decide (left.1 ≤ right.1) = true := by
    rw [visibleEntries_eq, List.pairwise_map]
    exact (sorted.filter _).imp fun before => decide_eq_true before
  rw [visibleFiles, List.mergeSort_of_pairwise inOrder]

end FileTree
end DocLint
