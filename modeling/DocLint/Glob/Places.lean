/-!
# Places in a path

A path of n bytes has n + 1 places: one in front of each byte, and its end.  A
set of places is kept as a mark at each of them.  A pattern is matched from its
end to its start: what stands behind a token marks the places where the token
may end, and the token marks those where it may start.  Each token then costs
one walk over the path, however many ways there are to match it.
-/

namespace DocLint
namespace Glob

/-- The bytes of a text. -/
def bytesOf (text : List Char) : List UInt8 :=
  text.flatMap String.utf8EncodeChar

/-- The byte of a slash. -/
def slash : UInt8 := 0x2F

/-- Some bytes with a mark at each of their places. -/
inductive Places
  /-- The end of the bytes. -/
  | last (mark : Bool)
  /-- The place in front of a byte, and those behind it. -/
  | front (mark : Bool) (byte : UInt8) (behind : Places)
  deriving Repr, Inhabited

namespace Places

/-- Whether the first place is marked. -/
def first : Places → Bool
  | last mark => mark
  | front mark _ _ => mark

/-- Bytes of which only the end is marked. -/
def atEnd : List UInt8 → Places
  | [] => last true
  | byte :: rest => front false byte (atEnd rest)

/-- The same bytes without a mark. -/
def unmarked : Places → Places
  | last _ => last false
  | front _ byte behind => front false byte behind.unmarked

/-- The places that are marked in one set or the other, for sets of places in
the same bytes. -/
def union : Places → Places → Places
  | last mark, other => last (mark || other.first)
  | front mark byte behind, front other _ others =>
    front (mark || other) byte (behind.union others)
  | front mark byte behind, last other => front (mark || other) byte behind

/-- The places from which one accepted byte leads to a mark. -/
def beforeByte (accepts : UInt8 → Bool) : Places → Places
  | last _ => last false
  | front _ byte behind =>
    front (accepts byte && behind.first) byte (behind.beforeByte accepts)

/-- The places from which given bytes lead to a mark. -/
def beforeBytes : List UInt8 → Places → Places
  | [], places => places
  | expected :: rest, places =>
    (places.beforeBytes rest).beforeByte (· == expected)

/-- The places from which any bytes, or none, lead to a mark. -/
def beforeAny : Places → Places
  | last mark => last mark
  | front mark byte behind =>
    let behind := behind.beforeAny
    front (mark || behind.first) byte behind

/-- The places from which any bytes that end with a slash, or none, lead to a
mark. -/
def beforeDirectories (places : Places) : Places :=
  places.union (places.beforeByte (· == slash)).beforeAny

end Places
end Glob
end DocLint
