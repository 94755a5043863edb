/-!
# Places in a YAML text

A cursor holds what is left of a text and where that stands: how many bytes came
before it, on which line, and in which column.
-/

namespace DocLint
namespace Yaml

/-- Line breaks. -/
def isBreak (c : Char) : Bool :=
  c == '\n' || c == '\r' || c == '\u0085' || c == '\u2028' || c == '\u2029'

/-- Blanks inside a line. -/
def isBlank (c : Char) : Bool :=
  c == ' ' || c == '\t'

/-- Whether a text starts with a blank or a line break, or is empty. -/
def startsBlank : List Char → Bool
  | [] => true
  | c :: _ => isBlank c || isBreak c

/-- Whether a text starts with three of one character that stand alone. -/
def startsIndicator (c : Char) (text : List Char) : Bool :=
  text.take 3 == [c, c, c] && startsBlank (text.drop 3)

/-- Whether a line starts or ends a document. -/
def startsDocument (text : List Char) : Bool :=
  startsIndicator '-' text || startsIndicator '.' text

/-- Characters that a YAML text may hold. -/
def isPrintable (c : Char) : Bool :=
  c == '\t' || c == '\n' || c == '\r' || c == '\u0085' ||
    (decide (0x20 ≤ c.toNat) && decide (c.toNat ≤ 0x7E)) ||
    (decide (0xA0 ≤ c.toNat) && decide (c.toNat ≤ 0xFFFD)) ||
    decide (0x10000 ≤ c.toNat)

/-- A line break at the start of a text, and what follows it. -/
def lineBreak? : List Char → Option (Char × List Char)
  | '\r' :: '\n' :: rest => some ('\n', rest)
  | c :: rest => if isBreak c then some (c, rest) else none
  | [] => none

theorem lineBreak?_length
    {text rest : List Char}
    {c : Char}
    (found : lineBreak? text = some (c, rest)) :
    rest.length < text.length := by
  unfold lineBreak? at found
  split at found
  · simp only [Option.some.injEq, Prod.mk.injEq] at found
    simp only [← found.2, List.length_cons]
    omega
  · split at found
    · simp only [Option.some.injEq, Prod.mk.injEq] at found
      simp [← found.2]
    · simp at found
  · simp at found

/-- What follows a line of which only blanks and a comment are left. -/
def endLine? (text : List Char) : Option (List Char) :=
  let text := text.dropWhile isBlank
  let text :=
    if text.head? = some '#' then text.dropWhile (!isBreak ·) else text
  if text.isEmpty then some [] else (lineBreak? text).map Prod.snd

/-- What is left of a text, and where it stands. -/
structure Cursor where
  rest : List Char
  /-- How many bytes came before. -/
  index : Nat := 0
  line : Nat := 0
  column : Nat := 0
  deriving Repr

namespace Cursor

/-- Behind the next character.  A carriage return and a line feed are one line
break. -/
def next (cursor : Cursor) : Cursor :=
  match cursor.rest with
  | [] => cursor
  | c :: rest =>
    if isBreak c && !(c == '\r' && rest.head? == some '\n') then
      ⟨rest, cursor.index + c.utf8Size, cursor.line + 1, 0⟩
    else ⟨rest, cursor.index + c.utf8Size, cursor.line, cursor.column + 1⟩

/-- Behind some characters. -/
def skip : Nat → Cursor → Cursor
  | 0, cursor => cursor
  | count + 1, cursor => skip count cursor.next

/-- Where some end of the text is left. -/
def skipTo (cursor : Cursor) (rest : List Char) : Cursor :=
  cursor.skip (cursor.rest.length - rest.length)

end Cursor
end Yaml
end DocLint
