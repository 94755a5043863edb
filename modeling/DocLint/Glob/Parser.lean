import DocLint.Glob.Basic
import DocLint.Rest

/-!
# Reading glob patterns

A star is any bytes, and two stars that stand alone between slashes are any
directories.  Square brackets hold ranges of characters, braces hold
alternatives divided by commas and may nest, and a backslash takes the next
character as it is.
-/

namespace DocLint
namespace Glob

/-- A group of alternatives that is not closed yet. -/
structure OpenGroup where
  /-- What stands in front of the group, the last token first. -/
  before : List Token
  /-- The alternatives that are finished, the last one first. -/
  finished : List (List Token)

/-- A pattern that is read up to some character. -/
structure Reading where
  /-- The tokens of the alternative at hand, the last one first. -/
  current : List Token
  /-- The open groups, the inner one first. -/
  groups : List OpenGroup

namespace Reading

/-- Nothing is read. -/
def empty : Reading := ⟨[], []⟩

/-- One token more. -/
def push (read : Reading) (token : Token) : Reading :=
  { read with current := token :: read.current }

/-- A group is opened. -/
def openGroup (read : Reading) : Reading :=
  ⟨[], ⟨read.current, []⟩ :: read.groups⟩

/-- A comma: outside of groups a literal, inside the end of an alternative. -/
def comma (read : Reading) : Reading :=
  match read.groups with
  | [] => read.push (.literal ',')
  | group :: groups =>
    let finished := read.current.reverse :: group.finished
    ⟨[], { group with finished } :: groups⟩

/-- The inner group is closed. -/
def closeGroup (read : Reading) : Except Cause Reading :=
  match read.groups with
  | [] => .error .unopenedGroup
  | group :: groups =>
    let finished := read.current.reverse :: group.finished
    .ok ⟨.alternatives finished.reverse :: group.before, groups⟩

/-- Two stars that stand for no directories. -/
def pushStars (read : Reading) : Reading :=
  (read.push .anyBytes).push .anyBytes

/-- Directories in place of the slash in front of them.  Directories that stand
there already take in more of them. -/
def replaceSlash (read : Reading) (token : Token) : Reading :=
  match read.current with
  | .leadingDirectories :: _ => read
  | .trailingDirectories :: _ => read
  | _ :: rest => { read with current := token :: rest }
  | [] => read.push token

/-- Two stars, given the character in front of them and the characters behind.
The result tells whether the slash behind them is taken in. -/
def doubleStar
    (read : Reading)
    (previous : Option Char)
    (rest : List Char) :
    Reading × Bool :=
  let inGroup := !read.groups.isEmpty
  if read.current.isEmpty then
    match rest.head? with
    | none => (read.push .leadingDirectories, false)
    | some '/' => (read.push .leadingDirectories, true)
    | some _ => (read.pushStars, false)
  else if previous = some '/' ∨
      (inGroup ∧ (previous = some ',' ∨ previous = some '\x7b')) then
    match rest.head? with
    | none => (read.replaceSlash .trailingDirectories, false)
    | some '/' => (read.replaceSlash .innerDirectories, true)
    | some c =>
      if inGroup ∧ (c = ',' ∨ c = '\x7d') then
        (read.replaceSlash .trailingDirectories, false)
      else (read.pushStars, false)
  else (read.pushStars, false)

end Reading

/-- The ranges of a class from behind its opening bracket, and what follows its
closing bracket.  `open?` tells whether a hyphen waits for the end of the last
range, which is the first of the list. -/
def classRanges
    (first open? : Bool)
    (ranges : List (Char × Char)) :
    (text : List Char) → Except Cause (List (Char × Char) × Rest text)
  | [] => .error .unclosedClass
  | c :: rest =>
    let continue? (open? : Bool) (ranges : List (Char × Char)) :
        Except Cause (List (Char × Char) × Rest (c :: rest)) :=
      match classRanges false open? ranges rest with
      | .error cause => .error cause
      | .ok (ranges, remaining) => .ok (ranges, Rest.behind remaining)
    if c = ']' ∧ !first then
      let closed := if open? then ('-', '-') :: ranges else ranges
      .ok (closed.reverse, Rest.tail)
    else if c = '-' ∧ !first ∧ !open? then
      continue? true ranges
    else if open? then
      match ranges with
      | (low, _) :: others =>
        if c < low then .error (.invalidRange low c)
        else continue? false ((low, c) :: others)
      | [] => continue? false [(c, c)]
    else continue? false ((c, c) :: ranges)

/-- Read on from a pattern that is read up to some character. -/
def readOn
    (read : Reading)
    (previous : Option Char)
    (text : List Char) :
    Except Cause Reading :=
  match text with
  | [] => .ok read
  | '*' :: '*' :: rest =>
    match read.doubleStar previous rest, rest with
    | (read, true), slash :: rest => readOn read (some slash) rest
    | (read, _), rest => readOn read (some '*') rest
  | '*' :: rest => readOn (read.push .anyBytes) (some '*') rest
  | '?' :: rest => readOn (read.push .anyByte) (some '?') rest
  | '[' :: mark :: rest =>
    if mark = '!' ∨ mark = '^' then
      match classRanges true false [] rest with
      | .error cause => .error cause
      | .ok (ranges, ⟨rest, _⟩) =>
        readOn (read.push (.oneOf true ranges)) (some ']') rest
    else
      match classRanges true false [] (mark :: rest) with
      | .error cause => .error cause
      | .ok (ranges, ⟨rest, _⟩) =>
        readOn (read.push (.oneOf false ranges)) (some ']') rest
  | ['['] => .error .unclosedClass
  | '\x7b' :: rest => readOn read.openGroup (some '\x7b') rest
  | '\x7d' :: rest =>
    match read.closeGroup with
    | .error cause => .error cause
    | .ok read => readOn read (some '\x7d') rest
  | ',' :: rest => readOn read.comma (some ',') rest
  | ['\\'] => .error .danglingEscape
  | '\\' :: c :: rest => readOn (read.push (.literal c)) (some c) rest
  | c :: rest => readOn (read.push (.literal c)) (some c) rest
termination_by text.length
decreasing_by
  all_goals simp_all
  all_goals omega

/-- Read a pattern. -/
def parse (pattern : String) : Except Cause (List Token) :=
  match readOn .empty none pattern.toList with
  | .error cause => .error cause
  | .ok read =>
    if read.groups.isEmpty then .ok read.current.reverse
    else .error .unclosedGroup

end Glob
end DocLint
