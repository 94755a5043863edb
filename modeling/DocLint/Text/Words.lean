import DocLint.Text.Class

/-!
# Words of a text

White space divides a text into words.  The functions here cut white space and
words off a text; each of them keeps every character, so that positions can be
read off the parts.
-/

namespace DocLint
namespace Text

/-- The white space a text starts with. -/
def leadingBlanks (text : List Char) : List Char :=
  text.takeWhile isBlank

/-- A text without the white space it starts with. -/
def trimStart (text : List Char) : List Char :=
  text.dropWhile isBlank

/-- A text without the white space it ends with. -/
def trimEnd (text : List Char) : List Char :=
  (text.reverse.dropWhile isBlank).reverse

/-- A text without the white space around it. -/
def trim (text : List Char) : List Char :=
  trimEnd (trimStart text)

/-- The word a text starts with; empty when it starts with white space. -/
def leadingWord (text : List Char) : List Char :=
  text.takeWhile fun c => !isBlank c

/-- What follows the word that a text starts with. -/
def afterWord (text : List Char) : List Char :=
  text.dropWhile fun c => !isBlank c

/-- Whether two texts agree once all white space is left out. -/
def sameIgnoringBlanks (left right : List Char) : Bool :=
  left.filter (fun c => !isBlank c) == right.filter fun c => !isBlank c

theorem leadingBlanks_append_trimStart (text : List Char) :
    leadingBlanks text ++ trimStart text = text :=
  List.takeWhile_append_dropWhile

theorem leadingWord_append_afterWord (text : List Char) :
    leadingWord text ++ afterWord text = text :=
  List.takeWhile_append_dropWhile

end Text
end DocLint
