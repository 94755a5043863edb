import DocLint.Yaml.Block
import DocLint.Yaml.Property

/-!
# Tokens of YAML texts

A YAML text is read as tokens.  Indentation is made explicit: a token opens each
collection that is laid out in lines, and a token closes it where a line is
indented less.  A scalar or a collection in brackets that turns out to be a key,
because a colon follows it on its line, gets a token of its own in front of it.

Anchors are numbered while they are read, and references to them and tags are
resolved.
-/

namespace DocLint
namespace Yaml

/-- How a scalar is written. -/
inductive ScalarStyle
  | plain
  | quoted
  | literal
  | folded
  deriving DecidableEq, Repr, Inhabited

/-- A token of a YAML text. -/
inductive Token
  /-- The version of YAML, or what a handle stands for. -/
  | directive (isVersion : Bool)
  | documentStart
  | documentEnd
  /-- A sequence laid out in lines starts. -/
  | blockSequence
  /-- A mapping laid out in lines starts. -/
  | blockMapping
  /-- A collection laid out in lines ends. -/
  | blockEnd
  | openSequence
  | closeSequence
  | openMapping
  | closeMapping
  /-- A hyphen in front of an item. -/
  | item
  | comma
  | key
  | value
  /-- The number of an anchor. -/
  | anchor (number : Nat)
  /-- A reference to the anchor of a number. -/
  | reference (number : Nat)
  | tag (tag : Tag)
  | scalar (text : String) (style : ScalarStyle)
  deriving DecidableEq, Repr, Inhabited

/-- What may turn out to be a key. -/
structure PossibleKey where
  /-- How many tokens come before it. -/
  position : Nat
  /-- Whether it has to be a key, because it stands where only a key may
  stand. -/
  required : Bool
  index : Nat
  line : Nat
  column : Nat
  deriving Repr

/-- A text that is read up to the cursor. -/
structure Scanner where
  cursor : Cursor
  tokens : Array Token := #[]
  /-- The columns of the open collections that are laid out in lines, the inner
  one first. -/
  indents : List Nat := []
  /-- Whether a key may start here. -/
  keyAllowed : Bool := true
  /-- What may turn out to be a key on the level of the cursor. -/
  possibleKey : Option PossibleKey := none
  /-- The same for the levels around it, one for each open bracket. -/
  outerKeys : List (Option PossibleKey) := []
  /-- The names of anchors with the numbers they have now. -/
  anchors : List (String × Nat) := []
  /-- What handles stand for by directives. -/
  handles : List (String × Tag) := []
  deriving Repr

namespace Scanner

/-- Whether the cursor stands inside of brackets. -/
def inFlow (scanner : Scanner) : Bool :=
  !scanner.outerKeys.isEmpty

/-- One token more, of some characters. -/
def push (scanner : Scanner) (token : Token) (width : Nat) : Scanner :=
  { scanner with
    tokens := scanner.tokens.push token
    cursor := scanner.cursor.skip width }

/-- One token more, which ends where some end of the text is left. -/
def pushTo (scanner : Scanner) (token : Token) (rest : List Char) : Scanner :=
  { scanner with
    tokens := scanner.tokens.push token
    cursor := scanner.cursor.skipTo rest }

/-- Skip blanks, comments and line breaks.  Tabs are no blanks where a key may
start, and a line break allows a key outside of brackets.  A byte order mark is
a blank where a line starts. -/
def skipBlanks
    (inFlow keyAllowed inComment : Bool)
    (index line column : Nat) :
    List Char → Cursor × Bool
  | [] => (⟨[], index, line, column⟩, keyAllowed)
  | c :: rest =>
    let isSkipped :=
      inComment || c == ' ' || c == '\r' ||
        (c == '\t' && (inFlow || !keyAllowed)) || (c == '\ufeff' && column == 0)
    if isBreak c && !(c == '\r' && rest.head? == some '\n') then
      skipBlanks inFlow (!inFlow || keyAllowed) false
        (index + c.utf8Size) (line + 1) 0 rest
    else if isSkipped then
      skipBlanks inFlow keyAllowed inComment
        (index + c.utf8Size) line (column + 1) rest
    else if c == '#' then
      skipBlanks inFlow keyAllowed true (index + 1) line (column + 1) rest
    else (⟨c :: rest, index, line, column⟩, keyAllowed)

/-- Skip to the next token. -/
def toToken (scanner : Scanner) : Scanner :=
  let cursor := scanner.cursor
  let (cursor, keyAllowed) :=
    skipBlanks scanner.inFlow scanner.keyAllowed false
      cursor.index cursor.line cursor.column cursor.rest
  { scanner with cursor, keyAllowed }

/-! ## Possible keys -/

/-- Whether a key may still end at the cursor: on its line, and not too far
on. -/
def isFresh (cursor : Cursor) (key : PossibleKey) : Bool :=
  key.line == cursor.line && decide (cursor.index ≤ key.index + 1024)

/-- Forget a possible key that is not fresh.  It is an error if it had to be a
key. -/
def freshKey? (cursor : Cursor) :
    Option PossibleKey → Option (Option PossibleKey)
  | none => some none
  | some key =>
    if isFresh cursor key then some (some key)
    else if key.required then none
    else some none

/-- Forget all possible keys that are not fresh. -/
def dropStaleKeys? (scanner : Scanner) : Option Scanner := do
  let possibleKey ← freshKey? scanner.cursor scanner.possibleKey
  let outerKeys ← scanner.outerKeys.mapM (freshKey? scanner.cursor)
  return { scanner with possibleKey, outerKeys }

/-- Forget the possible key of this level.  It is an error if it had to be a
key. -/
def dropKey? (scanner : Scanner) : Option Scanner :=
  match scanner.possibleKey with
  | some key =>
    if key.required then none else some { scanner with possibleKey := none }
  | none => some scanner

/-- Note that what starts at the cursor may turn out to be a key. -/
def noteKey? (scanner : Scanner) : Option Scanner :=
  if scanner.keyAllowed then do
    let cursor := scanner.cursor
    let scanner ← scanner.dropKey?
    let key : PossibleKey :=
      { position := scanner.tokens.size
        required :=
          !scanner.inFlow && scanner.indents.head? == some cursor.column
        index := cursor.index
        line := cursor.line
        column := cursor.column }
    return { scanner with possibleKey := some key }
  else some scanner

/-! ## Indentation -/

/-- Close the collections that are indented deeper than a column. -/
def closeDeeper
    (column : Nat)
    (tokens : Array Token) :
    List Nat → Array Token × List Nat
  | [] => (tokens, [])
  | indent :: outer =>
    if column < indent then closeDeeper column (tokens.push .blockEnd) outer
    else (tokens, indent :: outer)

/-- Close the collections that are indented deeper than the cursor. -/
def unroll (scanner : Scanner) : Scanner :=
  if scanner.inFlow then scanner
  else
    let (tokens, indents) :=
      closeDeeper scanner.cursor.column scanner.tokens scanner.indents
    { scanner with tokens, indents }

/-- Close all collections that are laid out in lines. -/
def unrollAll (scanner : Scanner) : Scanner :=
  if scanner.inFlow then scanner
  else
    let ends := Array.replicate scanner.indents.length Token.blockEnd
    { scanner with tokens := scanner.tokens ++ ends, indents := [] }

/-- Open a collection laid out in lines, if a column is deeper than those of the
open ones.  Its token goes behind the given number of tokens. -/
def roll
    (scanner : Scanner)
    (column position : Nat)
    (token : Token) :
    Scanner :=
  if !scanner.inFlow && scanner.indents.all (· < column) then
    { scanner with
      indents := column :: scanner.indents
      tokens := scanner.tokens.insertIdxIfInBounds position token }
  else scanner

/-- Open a collection laid out in lines at the cursor. -/
def rollHere (scanner : Scanner) (token : Token) : Scanner :=
  scanner.roll scanner.cursor.column scanner.tokens.size token

/-! ## Documents, collections and entries -/

/-- The start or the end of a document. -/
def document? (scanner : Scanner) (token : Token) : Option Scanner := do
  let scanner ← scanner.unrollAll.dropKey?
  return { scanner with keyAllowed := false }.push token 3

/-- A directive, from its percent sign on.  What a handle stands for is said
only once. -/
def directive? (scanner : Scanner) (rest : List Char) : Option Scanner := do
  let scanner ← scanner.unrollAll.dropKey?
  let scanner := { scanner with keyAllowed := false }
  match ← Yaml.directive? rest with
  | (.version, rest) => return scanner.pushTo (.directive true) rest
  | (.handle name tag, rest) =>
    guard (scanner.handles.lookup name).isNone
    let handles := (name, tag) :: scanner.handles
    return { scanner with handles }.pushTo (.directive false) rest

/-- An opening bracket. -/
def opening? (scanner : Scanner) (token : Token) : Option Scanner := do
  let scanner ← scanner.noteKey?
  return {
    scanner with
    outerKeys := scanner.possibleKey :: scanner.outerKeys
    possibleKey := none
    keyAllowed := true }.push token 1

/-- A closing bracket. -/
def closing? (scanner : Scanner) (token : Token) : Option Scanner := do
  let scanner ← scanner.dropKey?
  let scanner :=
    match scanner.outerKeys with
    | [] => scanner
    | key :: outerKeys => { scanner with possibleKey := key, outerKeys }
  return { scanner with keyAllowed := false }.push token 1

/-- A comma between brackets. -/
def comma? (scanner : Scanner) : Option Scanner := do
  return { (← scanner.dropKey?) with keyAllowed := true }.push .comma 1

/-- A hyphen in front of an item. -/
def item? (scanner : Scanner) : Option Scanner := do
  guard (scanner.inFlow || scanner.keyAllowed)
  let scanner ← (scanner.rollHere .blockSequence).dropKey?
  return { scanner with keyAllowed := true }.push .item 1

/-- A question mark in front of a key. -/
def key? (scanner : Scanner) : Option Scanner := do
  guard (scanner.inFlow || scanner.keyAllowed)
  let scanner ← (scanner.rollHere .blockMapping).dropKey?
  return { scanner with keyAllowed := !scanner.inFlow }.push .key 1

/-- A colon in front of a value.  What may be a key is one now. -/
def value? (scanner : Scanner) : Option Scanner :=
  match scanner.possibleKey with
  | some key =>
    let scanner :=
      { scanner with
        tokens := scanner.tokens.insertIdxIfInBounds key.position .key
        possibleKey := none
        keyAllowed := false }
    some ((scanner.roll key.column key.position .blockMapping).push .value 1)
  | none => do
    guard (scanner.inFlow || scanner.keyAllowed)
    let scanner := scanner.rollHere .blockMapping
    return { scanner with keyAllowed := !scanner.inFlow }.push .value 1

/-! ## Anchors, tags and scalars -/

/-- The names of anchors with a number for one of them: how many names there
were before.  A name that is given again takes a new number. -/
def numberAnchor
    (name : String)
    (anchors : List (String × Nat)) :
    List (String × Nat) :=
  (name, anchors.length) :: anchors.filter fun entry => entry.1 != name

/-- An anchor, or a reference to one that came before. -/
def anchor?
    (scanner : Scanner)
    (c : Char)
    (rest : List Char) :
    Option Scanner := do
  let scanner ← scanner.noteKey?
  let scanner := { scanner with keyAllowed := false }
  let (name, rest) ← anchorName? rest
  if c = '*' then
    return scanner.pushTo (.reference (← scanner.anchors.lookup name)) rest
  else
    let anchors := numberAnchor name scanner.anchors
    let number := scanner.anchors.length
    return { scanner with anchors }.pushTo (.anchor number) rest

/-- A tag.  Between brackets a comma may follow it. -/
def tag? (scanner : Scanner) (rest : List Char) : Option Scanner := do
  let scanner ← scanner.noteKey?
  let (tag, rest) ← Yaml.tag? (scanner.handles ++ defaultHandles) rest
  guard (startsBlank rest || (scanner.inFlow && rest.head? == some ','))
  return { scanner with keyAllowed := false }.pushTo (.tag tag) rest

/-- A scalar laid out in lines.  A key may follow it. -/
def block?
    (scanner : Scanner)
    (folded : Bool)
    (rest : List Char) :
    Option Scanner := do
  let scanner ← scanner.dropKey?
  let (text, rest) ← Yaml.block? folded scanner.indents.head? rest
  let style := if folded then ScalarStyle.folded else .literal
  return { scanner with keyAllowed := true }.pushTo (.scalar text style) rest

/-- A scalar in quotes. -/
def quoted? (scanner : Scanner) (quote : Char) : Option Scanner := do
  let scanner ← scanner.noteKey?
  let start := scanner.cursor.next
  let (scalar, rest) ← Yaml.quoted? quote { column := start.column } start.rest
  return { scanner with keyAllowed := false }.pushTo
    (.scalar scalar.text .quoted) rest

/-- A scalar without quotes.  Behind a line break a key may start again. -/
def plain? (scanner : Scanner) : Option Scanner := do
  let scanner ← scanner.noteKey?
  let indent := (scanner.indents.head?.map (· + 1)).getD 0
  let (scalar, rest) ←
    Yaml.plain? scanner.inFlow indent { column := scanner.cursor.column }
      scanner.cursor.rest
  return { scanner with keyAllowed := scalar.gap.broken }.pushTo
    (.scalar scalar.text .plain) rest

/-- The characters that start a token of another kind, or none at all. -/
def indicators : List Char :=
  ['#', '&', '*', '!', '|', '>', '%', '@', '\x60']

/-- Whether a character that starts no other token may start a scalar without
quotes. -/
def startsPlain (inFlow : Bool) (c : Char) (rest : List Char) : Bool :=
  if c == '-' then !rest.head?.any isBlank
  else if c == '?' || c == ':' then !inFlow && !startsBlank rest
  else
    !startsBlank [c] && !isFlowIndicator c && !indicators.contains c

/-! ## Tokens one after another -/

/-- Read the token at the cursor, which starts with the character `c`. -/
def token? (scanner : Scanner) (c : Char) (rest : List Char) : Option Scanner :=
  let inFlow := scanner.inFlow
  let atStart := scanner.cursor.column == 0
  if atStart && c == '%' then scanner.directive? rest
  else if atStart && startsIndicator '-' (c :: rest) then
    scanner.document? .documentStart
  else if atStart && startsIndicator '.' (c :: rest) then
    scanner.document? .documentEnd
  else if c == '[' then scanner.opening? .openSequence
  else if c == '\x7b' then scanner.opening? .openMapping
  else if c == ']' then scanner.closing? .closeSequence
  else if c == '\x7d' then scanner.closing? .closeMapping
  else if c == ',' then scanner.comma?
  else if c == '-' && startsBlank rest then scanner.item?
  else if c == '?' && (inFlow || startsBlank rest) then scanner.key?
  else if c == ':' && (inFlow || startsBlank rest) then scanner.value?
  else if c == '*' || c == '&' then scanner.anchor? c rest
  else if c == '!' then scanner.tag? rest
  else if c == '|' && !inFlow then scanner.block? false rest
  else if c == '>' && !inFlow then scanner.block? true rest
  else if c == '\'' || c == '"' then scanner.quoted? c
  else if startsPlain inFlow c rest then scanner.plain?
  else none

/-- The tokens up to the end of the text. -/
def finish? (scanner : Scanner) : Option (List Token) := do
  return (← scanner.unrollAll.dropKey?).tokens.toList

/-- Read all tokens.  Each token takes up one character at least, so that as
many steps as there are characters are enough. -/
def tokensWithin? : Nat → Scanner → Option (List Token)
  | 0, _ => none
  | steps + 1, scanner => do
    let scanner ← scanner.toToken.dropStaleKeys?
    let scanner := scanner.unroll
    match scanner.cursor.rest with
    | [] => scanner.finish?
    | c :: rest => tokensWithin? steps (← scanner.token? c rest)

end Scanner

/-- The tokens of a text. -/
def tokens? (text : List Char) : Option (List Token) := do
  guard (text.all isPrintable)
  Scanner.tokensWithin? (text.length + 1) { cursor := { rest := text } }

end Yaml
end DocLint
