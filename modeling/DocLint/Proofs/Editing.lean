import DocLint.Proofs.BodyPlaces
import DocLint.Finding
import Mathlib.Data.List.Induction

/-!
# Editing a text at many places at once

An edit inserts texts in front of some bytes of a text and leaves some bytes
out.  All places refer to the text before the edit, so that it does not matter
in which order corrections are given.  An edit of two texts in sequence is the
edit of both, which allows to follow it from a comment line to the types of a
tag.
-/

namespace DocLint

open Text

/-- What is inserted in front of each byte position, and which bytes are left
out. -/
structure Edit where
  inserted : Nat → List Char
  removed : Nat → Bool

namespace Edit

/-- The edited text, for a text that starts at a byte position. -/
def apply (edit : Edit) : Nat → List Char → List Char
  | _, [] => []
  | position, c :: rest =>
      edit.inserted position ++ (if edit.removed position then [] else [c]) ++
        edit.apply (position + c.utf8Size) rest

theorem apply_append
    (edit : Edit)
    (position : Nat)
    (left right : List Char) :
    edit.apply position (left ++ right) =
      edit.apply position left ++
        edit.apply (position + byteLength left) right := by
  induction left generalizing position with
  | nil => rfl
  | cons c rest hypothesis =>
      rw [List.cons_append, apply, apply, hypothesis, byteLength_cons,
        Nat.add_assoc]
      simp only [List.append_assoc]

/-- An edit that does nothing at a byte position. -/
def Keeps (edit : Edit) (position : Nat) : Prop :=
  edit.inserted position = [] ∧ edit.removed position = false

/-- Two edits that do the same, each at its own byte position. -/
def Agrees (edit other : Edit) (position otherPosition : Nat) : Prop :=
  edit.inserted position = other.inserted otherPosition ∧
    edit.removed position = other.removed otherPosition

/-- An edit depends on what it does inside the text only. -/
theorem apply_congr
    {edit other : Edit}
    {position otherPosition : Nat}
    {text : List Char}
    (agrees : ∀ distance < byteLength text,
      edit.Agrees other (position + distance) (otherPosition + distance)) :
    edit.apply position text = other.apply otherPosition text := by
  induction text generalizing position otherPosition with
  | nil => rfl
  | cons c rest hypothesis =>
      have positive := c.utf8Size_pos
      rw [byteLength_cons] at agrees
      obtain ⟨inserted, removed⟩ := agrees 0 (by omega)
      rw [Nat.add_zero, Nat.add_zero] at inserted removed
      have behind : edit.apply (position + c.utf8Size) rest =
          other.apply (otherPosition + c.utf8Size) rest := by
        apply hypothesis
        intro distance within
        have moved := agrees (c.utf8Size + distance) (by omega)
        rw [← Nat.add_assoc, ← Nat.add_assoc] at moved
        exact moved
      rw [apply, apply, inserted, removed, behind]

/-- A text with nothing inserted is kept or left out as a whole. -/
theorem apply_of_not_inserted
    {edit : Edit}
    {position : Nat}
    {text : List Char}
    {drops : Bool}
    (uniform : ∀ distance < byteLength text,
      edit.inserted (position + distance) = [] ∧
        edit.removed (position + distance) = drops) :
    edit.apply position text = if drops then [] else text := by
  induction text generalizing position with
  | nil =>
      rw [ite_self]
      rfl
  | cons c rest hypothesis =>
      have positive := c.utf8Size_pos
      rw [byteLength_cons] at uniform
      obtain ⟨inserted, removed⟩ := uniform 0 (by omega)
      rw [Nat.add_zero] at inserted removed
      have behind : edit.apply (position + c.utf8Size) rest =
          if drops then [] else rest := by
        apply hypothesis
        intro distance within
        have moved := uniform (c.utf8Size + distance) (by omega)
        rw [← Nat.add_assoc] at moved
        exact moved
      rw [apply, inserted, removed, behind]
      cases drops <;> rfl

/-- A text is kept by an edit that does nothing in it. -/
theorem apply_of_keeps
    {edit : Edit}
    {position : Nat}
    {text : List Char}
    (keeps : ∀ distance < byteLength text, edit.Keeps (position + distance)) :
    edit.apply position text = text := by
  rw [apply_of_not_inserted keeps]
  rfl

/-- A text that is left out as a whole, with another text inserted in front of
it, is replaced. -/
theorem apply_of_replaced
    {edit : Edit}
    {position : Nat}
    {text replacement : List Char}
    (nonempty : text ≠ [])
    (first : edit.inserted position = replacement)
    (others : ∀ distance < byteLength text, 0 < distance →
      edit.inserted (position + distance) = [])
    (drops : ∀ distance < byteLength text,
      edit.removed (position + distance) = true) :
    edit.apply position text = replacement := by
  cases text with
  | nil => exact absurd rfl nonempty
  | cons c rest =>
      have positive := c.utf8Size_pos
      rw [byteLength_cons] at others drops
      have removed := drops 0 (by omega)
      rw [Nat.add_zero] at removed
      have uniform : ∀ distance < byteLength rest,
          edit.inserted (position + c.utf8Size + distance) = [] ∧
            edit.removed (position + c.utf8Size + distance) = true := by
        intro distance within
        rw [Nat.add_assoc]
        exact ⟨others (c.utf8Size + distance) (by omega) (by omega),
          drops (c.utf8Size + distance) (by omega)⟩
      rw [apply, first, removed, apply_of_not_inserted uniform]
      simp

end Edit

/-! ## Editing the lines of a body -/

/-- A body with each of its lines exchanged. -/
def Body.map (change : BodyLine → BodyLine) (body : Body) : Body where
  firstLine := change body.firstLine
  otherLines := body.otherLines.map change

theorem Body.lines_map
    (change : BodyLine → BodyLine)
    (body : Body) :
    (body.map change).lines = body.lines.map change := rfl

section Lines

variable {edit : Edit}
variable {body : Body}
variable {change : BodyLine → BodyLine}

/-- Lines that others follow are edited one by one, when the edit keeps the
breaks between them. -/
theorem Edit.apply_joined
    (onLines : ∀ earlier line later,
      body.lines = earlier ++ line :: later →
      edit.apply (byteLength (Body.joined earlier)) line.chars =
        (change line).chars)
    (keepsJoins : ∀ join, body.IsJoin join → edit.Keeps join)
    (earlier : List BodyLine) :
    ∀ line later, body.lines = earlier ++ line :: later →
    edit.apply 0 (Body.joined earlier) =
      Body.joined (earlier.map change) := by
  induction earlier using List.reverseRecOn with
  | nil =>
      intro line later split
      rfl
  | append_singleton front last hypothesis =>
      intro line later split
      rw [List.append_assoc, List.singleton_append] at split
      have before := hypothesis last (line :: later) split
      have onLast := onLines front last (line :: later) split
      have keeps : edit.Keeps
          (byteLength (Body.joined front ++ last.chars)) :=
        keepsJoins _ ⟨front, last, line, later, split, rfl⟩
      have onBreak : edit.apply
          (byteLength (Body.joined front ++ last.chars)) ['\n'] = ['\n'] := by
        rw [apply, keeps.1, keeps.2]
        rfl
      have lastJoined (lines : List BodyLine) (line : BodyLine) :
          Body.joined (lines ++ [line]) =
            (Body.joined lines ++ line.chars) ++ ['\n'] := by
        rw [Body.joined_append, Body.joined_cons]
        simp [Body.joined]
      rw [lastJoined, apply_append, Nat.zero_add, onBreak, apply_append,
        Nat.zero_add, before, onLast, List.map_append, List.map_singleton,
        lastJoined]

/-- The text of a body is edited line by line, when the edit keeps the breaks
between the lines. -/
theorem Edit.apply_chars
    (onLines : ∀ earlier line later,
      body.lines = earlier ++ line :: later →
      edit.apply (byteLength (Body.joined earlier)) line.chars =
        (change line).chars)
    (keepsJoins : ∀ join, body.IsJoin join → edit.Keeps join) :
    edit.apply 0 body.chars = (body.map change).chars := by
  obtain ⟨earlier, last, split⟩ : ∃ earlier last,
      body.lines = earlier ++ [last] :=
    ⟨_, _, (List.dropLast_concat_getLast (List.cons_ne_nil _ _)).symm⟩
  have mapped : (body.map change).lines =
      earlier.map change ++ [change last] := by
    rw [Body.lines_map, split, List.map_append, List.map_singleton]
  rw [Body.chars_of_lines split, Body.chars_of_lines mapped, apply_append,
    apply_append, Nat.zero_add, apply_joined onLines keepsJoins earlier last []
    split, onLines earlier last [] split]
  rfl

end Lines

end DocLint
