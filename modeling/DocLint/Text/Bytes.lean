/-!
# Texts measured in bytes

Positions in a text count the bytes of its UTF-8 form.  A text is a list of
characters, and cutting it at a byte position never splits a character: a
character that starts before the position belongs to the part before it.
-/

namespace DocLint
namespace Text

/-- Number of bytes of a text. -/
def byteLength : List Char → Nat
  | [] => 0
  | c :: rest => c.utf8Size + byteLength rest

/-- The part of a text before a byte position. -/
def takeBytes (count : Nat) : List Char → List Char
  | [] => []
  | c :: rest =>
    if count = 0 then [] else c :: takeBytes (count - c.utf8Size) rest

/-- The part of a text from a byte position on. -/
def dropBytes (count : Nat) : List Char → List Char
  | [] => []
  | c :: rest =>
    if count = 0 then c :: rest else dropBytes (count - c.utf8Size) rest

/-- The part of a text between two byte positions. -/
def slice (text : List Char) (start stop : Nat) : List Char :=
  takeBytes (stop - start) (dropBytes start text)

@[simp] theorem byteLength_nil : byteLength [] = 0 := rfl

@[simp] theorem byteLength_cons (c : Char) (rest : List Char) :
    byteLength (c :: rest) = c.utf8Size + byteLength rest := rfl

@[simp] theorem byteLength_append (left right : List Char) :
    byteLength (left ++ right) = byteLength left + byteLength right := by
  induction left with
  | nil => simp
  | cons c rest ih => simp [ih, Nat.add_assoc]

@[simp] theorem takeBytes_zero (text : List Char) : takeBytes 0 text = [] := by
  cases text <;> rfl

@[simp] theorem dropBytes_zero (text : List Char) :
    dropBytes 0 text = text := by
  cases text <;> rfl

/-- Cutting at the length of the left part gives the left part. -/
theorem takeBytes_byteLength_append (left right : List Char) :
    takeBytes (byteLength left) (left ++ right) = left := by
  induction left with
  | nil => simp
  | cons c rest ih =>
    have positive := c.utf8Size_pos
    simp [takeBytes, ih, Nat.ne_of_gt positive]

/-- Cutting at the length of the left part leaves the right part. -/
theorem dropBytes_byteLength_append (left right : List Char) :
    dropBytes (byteLength left) (left ++ right) = right := by
  induction left with
  | nil => simp
  | cons c rest ih =>
    have positive := c.utf8Size_pos
    simp [dropBytes, ih, Nat.ne_of_gt positive]

/-- A slice whose ends are the lengths of two cuts is the text between them. -/
theorem slice_append (before middle after : List Char) :
    slice (before ++ middle ++ after) (byteLength before)
      (byteLength before + byteLength middle) = middle := by
  rw [slice, List.append_assoc, dropBytes_byteLength_append,
    Nat.add_sub_cancel_left, takeBytes_byteLength_append]

end Text
end DocLint
