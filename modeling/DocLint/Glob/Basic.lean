/-!
# Glob patterns

A glob pattern describes the paths that are left out of a search.  Patterns are
matched against the bytes of a path, and a slash is a byte like any other except
for the patterns of directories.
-/

namespace DocLint
namespace Glob

/-- One part of a glob pattern. -/
inductive Token
  /-- A character as it is. -/
  | literal (character : Char)
  /-- Any one byte. -/
  | anyByte
  /-- Any bytes, or none. -/
  | anyBytes
  /-- Any directories at the start of a path, or none. -/
  | leadingDirectories
  /-- A slash and anything behind it. -/
  | trailingDirectories
  /-- A slash, or any directories between two slashes. -/
  | innerDirectories
  /-- One byte of some ranges, or one of none of them. -/
  | oneOf (negated : Bool) (ranges : List (Char × Char))
  /-- One of several patterns. -/
  | alternatives (patterns : List (List Token))
  deriving Repr, Inhabited

/-- What is wrong with a glob pattern. -/
inductive Cause
  | unclosedClass
  | invalidRange (first last : Char)
  | unopenedGroup
  | unclosedGroup
  | danglingEscape
  deriving DecidableEq, Repr

/-- What is told about a cause. -/
def Cause.message : Cause → String
  | .unclosedClass => "unclosed character class; missing ']'"
  | .invalidRange first last =>
    "invalid range; '" ++ String.ofList [first] ++ "' > '" ++
      String.ofList [last] ++ "'"
  | .unopenedGroup =>
    "unopened alternate group; missing '\x7b' " ++
      "(maybe escape '\x7d' with '[\x7d]'?)"
  | .unclosedGroup =>
    "unclosed alternate group; missing '\x7d' " ++
      "(maybe escape '\x7b' with '[\x7b]'?)"
  | .danglingEscape => "dangling '\\'"

end Glob
end DocLint
