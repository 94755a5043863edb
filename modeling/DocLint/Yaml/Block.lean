import DocLint.Yaml.Scalar

/-!
# Scalars laid out in lines

Behind a bar or a greater-than sign a scalar is laid out in lines.  Its lines
are indented alike, by as many columns as its header says, or else as the first
line that is not empty.  Behind a bar line breaks stay as they are.  Behind a
greater-than sign they are folded: one line break between two lines that do not
start with a blank is read as a space, and of several the first is left out.
-/

namespace DocLint
namespace Yaml

/-- What becomes of the line breaks at the end of a scalar. -/
inductive Chomping
  | strip
  | clip
  | keep
  deriving DecidableEq, Repr

/-- What the header of a scalar says. -/
structure BlockHeader where
  chomping : Chomping
  /-- How much deeper than around it the scalar is indented, if that is
  given. -/
  increment : Option Nat
  deriving DecidableEq, Repr

namespace BlockHeader

/-- Read a mark of what becomes of the last line breaks, if there is one. -/
def readChomping : List Char → Chomping × List Char
  | '+' :: rest => (.keep, rest)
  | '-' :: rest => (.strip, rest)
  | text => (.clip, text)

/-- Read a digit for the indentation, if there is one.  It must not be zero. -/
def readIncrement? : List Char → Option (Option Nat × List Char)
  | [] => some (none, [])
  | c :: rest =>
    if c = '0' then none
    else if c.isDigit then some (some (c.toNat - '0'.toNat), rest)
    else some (none, c :: rest)

/-- Read a header from behind its first sign: the two marks in either order, and
the rest of the line. -/
def read? (text : List Char) : Option (BlockHeader × List Char) := do
  let (front, text) := readChomping text
  let (increment, text) ← readIncrement? text
  let (behind, text) :=
    if front = .clip ∧ increment.isSome then readChomping text
    else (front, text)
  return (⟨behind, increment⟩, ← endLine? text)

end BlockHeader

/-- A scalar laid out in lines, up to some character. -/
structure BlockScalar where
  folded : Bool
  /-- By how many columns the lines are indented, as soon as that is known. -/
  indent : Option Nat
  column : Nat := 0
  /-- The last column that was reached in front of a line. -/
  widest : Nat := 0
  inLine : Bool := false
  /-- Whether the last line starts with a blank. -/
  startsBlank : Bool := false
  /-- The characters that are read, the last one first. -/
  chars : List Char := []
  /-- The line break behind the last line. -/
  lineEnd : List Char := []
  /-- The line breaks of the empty lines behind it. -/
  others : List Char := []
  deriving Repr

namespace BlockScalar

/-- Whether the indentation of a line may go on. -/
def isIndenting (block : BlockScalar) : Bool :=
  block.indent.all (block.column < ·)

/-- One column of indentation more. -/
def space (block : BlockScalar) : BlockScalar :=
  { block with
    column := block.column + 1
    widest := max block.widest (block.column + 1) }

/-- A line break, behind a line or as an empty line. -/
def lineBreak (block : BlockScalar) (c : Char) : BlockScalar :=
  if block.inLine then
    { block with inLine := false, column := 0, lineEnd := [Gap.breakChar c] }
  else
    { block with column := 0, others := block.others ++ [Gap.breakChar c] }

/-- The indentation is that of the first line that is not empty, but no less
than that of an empty line in front of it, and no less than `least` columns. -/
def settle (least : Nat) (block : BlockScalar) : BlockScalar :=
  { block with indent := some (block.indent.getD (max block.widest least)) }

/-- What the line breaks in front of a line are read as, given whether the line
starts with a blank. -/
def gap (block : BlockScalar) (blank : Bool) : List Char :=
  let blanks := block.startsBlank || blank
  if block.folded && block.lineEnd == ['\n'] && !blanks then
    if block.others.isEmpty then [' '] else block.others
  else block.lineEnd ++ block.others

/-- The first character of a line. -/
def startLine (block : BlockScalar) (c : Char) : BlockScalar :=
  { block with
    inLine := true
    startsBlank := isBlank c
    chars := c :: ((block.gap (isBlank c)).reverse ++ block.chars)
    lineEnd := []
    others := [] }

/-- One character more of a line. -/
def push (block : BlockScalar) (c : Char) : BlockScalar :=
  { block with chars := c :: block.chars }

/-- Read on with a text that is not indented by less than `least` columns.  The
scalar ends in front of a line that is indented less than its first one.  Tabs
do not indent. -/
def readOn?
    (least : Nat)
    (block : BlockScalar) :
    List Char → Option (BlockScalar × List Char)
  | [] => some (block, [])
  | c :: rest =>
    if c == '\r' && rest.head? == some '\n' then readOn? least block rest
    else if isBreak c then readOn? least (block.lineBreak c) rest
    else if block.inLine then readOn? least (block.push c) rest
    else if block.isIndenting && c == ' ' then readOn? least block.space rest
    else if block.isIndenting && c == '\t' then none
    else
      let block := block.settle least
      if block.isIndenting then some (block, c :: rest)
      else readOn? least (block.startLine c) rest

/-- The text that is read. -/
def text (chomping : Chomping) (block : BlockScalar) : String :=
  let tail :=
    match chomping with
    | .strip => []
    | .clip => block.lineEnd
    | .keep => block.lineEnd ++ block.others
  String.ofList (block.chars.reverse ++ tail)

end BlockScalar

/-- Read a scalar laid out in lines, from behind its first sign.  The collection
around it is indented by `outer` columns, if there is one. -/
def block?
    (folded : Bool)
    (outer : Option Nat)
    (text : List Char) :
    Option (String × List Char) := do
  let (header, text) ← BlockHeader.read? text
  let indent := header.increment.map (outer.getD 0 + ·)
  let least := max ((outer.map (· + 1)).getD 0) 1
  let (block, rest) ← BlockScalar.readOn? least { folded, indent } text
  return (block.text header.chomping, rest)

end Yaml
end DocLint
