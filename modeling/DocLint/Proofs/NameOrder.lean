import Mathlib.Data.List.Lex
import Mathlib.Data.UInt
import DocLint.Files.Path

/-!
# Names in the order of their bytes

Names are compared as texts, character by character, which is how their bytes
compare: of two characters, the smaller one has the smaller byte where their
bytes first differ.  Places are compared name by name, and so are the segments
of a path.
-/

namespace DocLint
namespace Path

/-- The bytes of a name. -/
def bytes (name : String) : List UInt8 :=
  name.toUTF8.data.toList

/-- Two lists whose first difference is a smaller byte in the first of them. -/
def LessAtByte (left right : List UInt8) : Prop :=
  ∃ shared byte other more others, left = shared ++ byte :: more ∧
    right = shared ++ other :: others ∧ byte < other

theorem LessAtByte.append
    {left right : List UInt8}
    (less : LessAtByte left right)
    (more others : List UInt8) :
    left ++ more < right ++ others := by
  obtain ⟨shared, byte, other, behind, behindOther, rfl, rfl, smaller⟩ := less
  rw [List.append_assoc, List.append_assoc]
  exact List.append_left_lt (List.cons_lt_cons_iff.mpr (Or.inl smaller))

end Path
end DocLint
