import DocLint.Text.Bytes

/-!
# Tags

A tag is one directive of a documentation comment, such as `@param`, with the
texts found behind it.  A tag may go on over several comment lines, so a text
taken from it consists of pieces, one for each source line it covers; the pieces
tell where in the source each part of the text stands.
-/

namespace DocLint

open Text

/-- What a tag documents. -/
inductive TagKind
  | param
  | option
  | returns
  | raise
  | yieldParam
  | yieldReturn
  /-- The tag refers to the documentation of something else and has no types of
  its own. -/
  | reference
  | overload
  | other
  deriving DecidableEq, Repr

namespace TagKind

/-- The kind that a directive announces. -/
def ofDirective (directive : String) : TagKind :=
  if directive = "param" then .param
  else if directive = "option" then .option
  else if directive = "return" then .returns
  else if directive = "raise" then .raise
  else if directive = "yieldparam" then .yieldParam
  else if directive = "yieldreturn" then .yieldReturn
  else if directive = "overload" then .overload
  else .other

/-- The word for a kind in data. -/
def word : TagKind → String
  | .param => "param"
  | .option => "option"
  | .returns => "return"
  | .raise => "raise"
  | .yieldParam => "yieldparam"
  | .yieldReturn => "yieldreturn"
  | .reference => "reference"
  | .overload => "overload"
  | .other => "other"

/-- Whether tags of this kind carry types. -/
def isTyped : TagKind → Bool
  | .param | .option | .returns | .raise | .yieldParam | .yieldReturn => true
  | .reference | .overload | .other => false

end TagKind

/-- A place in the source: byte columns of one line. -/
structure Place where
  line : Nat
  startColumn : Nat
  endColumn : Nat
  deriving DecidableEq, Repr

/-- The part of a text that stands on one source line. -/
structure Piece where
  /-- Where the part starts in the text. -/
  offset : Nat
  length : Nat
  line : Nat
  column : Nat
  deriving DecidableEq, Repr

/-- The place of a piece. -/
def Piece.place (piece : Piece) : Place :=
  ⟨piece.line, piece.column, piece.column + piece.length⟩

/-- A text taken from a tag.  It has one piece at least. -/
structure TagText where
  text : String
  firstPiece : Piece
  otherPieces : List Piece
  deriving DecidableEq, Repr

namespace TagText

/-- The pieces in the order of the text. -/
def pieces (text : TagText) : List Piece :=
  text.firstPiece :: text.otherPieces

/-- The place of the text, cut at the end of its first line. -/
def place (text : TagText) : Place :=
  text.firstPiece.place

/-- Whether the text goes on over several lines. -/
def isMultiline (text : TagText) : Bool :=
  !text.otherPieces.isEmpty

/-- The last piece that starts at or before a byte position of the text. -/
def pieceAt? (text : TagText) (offset : Nat) : Option Piece :=
  text.pieces.reverse.find? fun piece => decide (piece.offset ≤ offset)

/-- The place of a part of the text, unless the part crosses the end of a
line. -/
def locate? (text : TagText) (start stop : Nat) : Option Place :=
  match text.pieceAt? start with
  | none => none
  | some piece =>
    if piece.offset + piece.length < stop then none
    else
      some ⟨piece.line, piece.column + (start - piece.offset),
        piece.column + (stop - piece.offset)⟩

/-- The place from a byte position of the text to the end of its line. -/
def locateToLineEnd (text : TagText) (offset : Nat) : Place :=
  match text.pieceAt? offset with
  | none => text.place
  | some piece =>
    ⟨piece.line, piece.column + min (offset - piece.offset) piece.length,
      piece.column + piece.length⟩

end TagText

/-- One directive of a documentation comment. -/
structure Tag where
  kind : TagKind
  /-- The directive as written, without the at sign. -/
  directive : String
  /-- Which comment line the tag starts on, counted from zero. -/
  lineIndex : Nat
  /-- The name of a parameter, or of what holds an option. -/
  name : Option TagText
  /-- The name of an option. -/
  key : Option TagText
  /-- The text between the square brackets. -/
  types : Option TagText
  /-- Text in square brackets where no types may stand. -/
  misplacedTypes : Option TagText
  /-- All that follows the directive, with line breaks between the lines. -/
  text : String
  deriving DecidableEq, Repr

/-- Whether the tag documents a parameter, by itself or by reference. -/
def Tag.documentsParameter (tag : Tag) : Bool :=
  tag.directive == "param" || tag.directive == "option"

end DocLint
