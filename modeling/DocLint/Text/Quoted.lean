import DocLint.Text.Visibility

/-!
# Quoted texts

A text shown in a message stands between double quotes, with an escape for every
character that would not show as itself.
-/

namespace DocLint
namespace Text

/-- Lower-case hexadecimal digits of a number, without leading zeros. -/
def hexDigits (n : Nat) : List Char :=
  Nat.toDigits 16 n

/-- The escape of a character by its code point. -/
def codePointEscape (c : Char) : List Char :=
  ['\\', 'u', '\x7b'] ++ hexDigits c.toNat ++ ['\x7d']

/-- Whether a character has a glyph of its own, apart from the one before it. -/
def showsAsItself (c : Char) : Bool :=
  if c.toNat < 0x80 then
    decide (0x20 ≤ c.toNat) && decide (c.toNat < 0x7F)
  else
    !invisible.contains c && !attachedMarks.contains c && !fillers.contains c

/-- The written form of a character between double quotes. -/
def quotedChar (c : Char) : List Char :=
  if c = '\x00' then ['\\', '0']
  else if c = '\t' then ['\\', 't']
  else if c = '\n' then ['\\', 'n']
  else if c = '\r' then ['\\', 'r']
  else if c = '"' then ['\\', '"']
  else if c = '\\' then ['\\', '\\']
  else if showsAsItself c then [c]
  else codePointEscape c

/-- A text between double quotes. -/
def quoted (text : String) : String :=
  String.ofList ('"' :: text.toList.flatMap quotedChar ++ ['"'])

end Text
end DocLint
