import DocLint.Glob.Basic
import DocLint.Glob.Places

/-!
# Matching glob patterns

A token takes the places where it may end to those where it may start.  A
pattern matches a path if it leads from the first place to the end.  A pattern
that is decided by the name of the file does not match a path that leads to a
parent directory, because such a path names no file.
-/

namespace DocLint
namespace Glob

/-- The ranges of bytes that a range of characters stands for.  A range takes in
all bytes of its ends, and the bytes between the last of its first and the first
of its last. -/
def byteRanges (range : Char × Char) : List (UInt8 × UInt8) :=
  let first := String.utf8EncodeChar range.1
  let last := String.utf8EncodeChar range.2
  let single (byte : UInt8) : UInt8 × UInt8 := (byte, byte)
  if range.1 = range.2 then first.map single
  else
    first.dropLast.map single ++
      [(first.getLast?.getD 0, last.head?.getD 0)] ++ last.tail.map single

/-- Whether a byte is in one of the ranges. -/
def inRanges (ranges : List (Char × Char)) (byte : UInt8) : Bool :=
  (ranges.flatMap byteRanges).any fun range =>
    decide (range.1 ≤ byte) && decide (byte ≤ range.2)

mutual

/-- Whether a token holds nothing but alternatives without a token. -/
def Token.isVoid : Token → Bool
  | .alternatives patterns => allVoid patterns
  | _ => false

/-- Whether patterns hold nothing but alternatives without a token. -/
def allVoid : List (List Token) → Bool
  | [] => true
  | pattern :: rest => isVoid pattern && allVoid rest

/-- Whether a pattern holds nothing but alternatives without a token. -/
def isVoid : List Token → Bool
  | [] => true
  | token :: rest => token.isVoid && isVoid rest

end

mutual

/-- The places where a token may start, given those where it may end.
Alternatives without a token are no alternatives. -/
def Token.before (places : Places) : Token → Places
  | .literal character => places.beforeBytes (String.utf8EncodeChar character)
  | .anyByte => places.beforeByte fun _ => true
  | .anyBytes => places.beforeAny
  | .leadingDirectories => places.beforeDirectories
  | .trailingDirectories => places.beforeAny.beforeByte (· == slash)
  | .innerDirectories => places.beforeDirectories.beforeByte (· == slash)
  | .oneOf negated ranges =>
    places.beforeByte fun byte => inRanges ranges byte != negated
  | .alternatives patterns =>
    if allVoid patterns then places else someBefore places patterns

/-- The places where some pattern that is not void may start, given those where
it may end. -/
def someBefore (places : Places) : List (List Token) → Places
  | [] => places.unmarked
  | pattern :: rest =>
    if isVoid pattern then someBefore places rest
    else (allBefore places pattern).union (someBefore places rest)

/-- The places where the tokens of a pattern may start, given those where they
may end. -/
def allBefore (places : Places) : List Token → Places
  | [] => places
  | token :: rest => token.before (allBefore places rest)

end

/-- The characters of tokens that are literals and nothing else. -/
def literals? : List Token → Option (List Char)
  | [] => some []
  | .literal character :: rest => (literals? rest).map (character :: ·)
  | _ :: _ => none

/-- Whether characters are the extension of a file name: a dot, and behind it
neither a dot nor a slash. -/
def isExtension : List Char → Bool
  | '.' :: rest => rest.all fun c => c != '.' && c != '/'
  | _ => false

/-- Whether the last tokens of a pattern spell the extension of a file name. -/
def endsInExtension : List Token → Bool
  | [] => false
  | token :: rest =>
    (literals? (token :: rest)).any isExtension || endsInExtension rest

/-- Whether a pattern is decided by the name of the file: a whole name below any
directories, any name with an extension, or a pattern of several parts that ends
in an extension.  Other patterns that are no more than a literal text, or the
end of one, are compared with the whole path. -/
def isByName (pattern : List Token) : Bool :=
  match pattern with
  | .leadingDirectories :: .anyBytes :: rest => ofAnyName rest
  | .leadingDirectories :: rest =>
    match literals? rest with
    | some name => !name.isEmpty && !name.contains '/'
    | none => endsInExtension rest
  | .anyBytes :: rest => ofAnyName rest
  | pattern => (literals? pattern).isNone && endsInExtension pattern
where
  /-- The same for what follows any bytes. -/
  ofAnyName (rest : List Token) : Bool :=
    match literals? rest with
    | some text => isExtension text
    | none => endsInExtension rest

/-- Whether the last part of a path leads to the parent directory. -/
def endsInParent (path : List Char) : Bool :=
  path.reverse.takeWhile (· != '/') == ['.', '.']

/-- Whether a pattern matches a whole path.  A pattern of nothing but leading
directories matches every path. -/
def isMatch (pattern : List Token) (path : String) : Bool :=
  match pattern with
  | [.leadingDirectories] => true
  | pattern =>
    !(endsInParent path.toList && isByName pattern) &&
      (allBefore (Places.atEnd (bytesOf path.toList)) pattern).first

end Glob
end DocLint
