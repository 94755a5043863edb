/-!
# Paths

A path is a text of segments between slashes.  An empty segment and `.` stay
where they are, `..` goes up, and every other segment is a name.  A path that
starts with a slash starts at the root.
-/

namespace DocLint
namespace Path

/-- The texts between the slashes of a text.  There is always at least one. -/
def segmentsOf : List Char → List (List Char)
  | [] => [[]]
  | c :: rest =>
    if c = '/' then [] :: segmentsOf rest
    else
      match segmentsOf rest with
      | [] => [[c]]
      | first :: others => (c :: first) :: others

/-- The segments of a path. -/
def segments (path : String) : List String :=
  (segmentsOf path.toList).map String.ofList

/-- Whether a path starts at the root. -/
def isAbsolute (path : String) : Bool :=
  path.toList.head? == some '/'

/-- Whether a segment stays where it is. -/
def isIdle (segment : String) : Bool :=
  segment == "" || segment == "."

/-- Segments without the idle ones at the end. -/
def trimIdle (segments : List String) : List String :=
  (segments.reverse.dropWhile isIdle).reverse

/-- The name a path ends with, if its last segment that is not idle is a
name. -/
def fileName? (path : String) : Option String :=
  match (trimIdle (segments path)).getLast? with
  | some name => if name = ".." then none else some name
  | none => none

/-- What follows the last dot of a name.  A dot in front of a name does not
count. -/
def extension? (name : String) : Option String :=
  let reversed := name.toList.reverse
  match reversed.dropWhile (· ≠ '.') with
  | '.' :: _ :: _ => some (String.ofList (reversed.takeWhile (· ≠ '.')).reverse)
  | _ => none

/-- The path without its last segment that is not idle; the root and the empty
path have none. -/
def parent? (path : String) : Option String :=
  match segments path with
  | [] => none
  | first :: rest =>
    match trimIdle rest with
    | [] => if first = "" then none else some ""
    | body =>
      let above := trimIdle body.dropLast
      if first = "" ∧ above = [] then some "/"
      else some ("/".intercalate (first :: above))

/-- A name below a path. -/
def join (path name : String) : String :=
  if path.isEmpty || path.toList.getLast? == some '/' then path ++ name
  else path ++ "/" ++ name

/-- The path that goes down from the root by names. -/
def absolute (names : List String) : String :=
  "/" ++ "/".intercalate names

end Path
end DocLint
