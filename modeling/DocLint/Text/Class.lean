import DocLint.Text.Alphabetic
import DocLint.Text.Edition
import DocLint.Text.Mark
import DocLint.Text.Numeric

/-!
# Character classes

The classes of characters that type expressions, tags and literals are made of.
All of them follow Unicode; ASCII is decided directly, the rest by the tables of
the properties.
-/

namespace DocLint
namespace Text

/-- White space beyond ASCII (`White_Space`). -/
def wideBlanks : CodePoints where
  ranges :=
    [ (0x0085, 0x0085), (0x00A0, 0x00A0), (0x1680, 0x1680), (0x2000, 0x200A),
      (0x2028, 0x2029), (0x202F, 0x202F), (0x205F, 0x205F), (0x3000, 0x3000)]

/-- White space: the controls from tab to carriage return, the space, and
`wideBlanks`. -/
def isBlank (c : Char) : Bool :=
  if c.toNat < 0x80 then
    c == ' ' || (decide (0x09 ≤ c.toNat) && decide (c.toNat ≤ 0x0D))
  else
    wideBlanks.contains c

/-- Letters and numbers of every kind. -/
def isAlphanumeric (c : Char) : Bool :=
  if c.toNat < 0x80 then
    c.isAlphanum
  else
    alphabetic.contains c || decimalDigits.contains c || otherNumbers.contains c

/-- Characters of the words that type names are made of. -/
def isNameChar (c : Char) : Bool :=
  isAlphanumeric c || c == '_'

/-- Decimal digits of every script, the newest characters left out. -/
def isDigit (c : Char) : Bool :=
  if c.toNat < 0x80 then c.isDigit
  else !assignedLast.contains c && decimalDigits.contains c

/-- Characters that continue a directive: letters, marks, decimal digits and
connectors, the newest characters left out.  Unlike `isNameChar` it takes marks
and joiners, and no numbers but digits. -/
def isDirectiveChar (c : Char) : Bool :=
  if c.toNat < 0x80 then
    c.isAlphanum || c == '_'
  else
    !assignedLast.contains c &&
      (alphabetic.contains c || marks.contains c || decimalDigits.contains c ||
        connectors.contains c)

end Text
end DocLint
