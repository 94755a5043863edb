import DocLint.Proofs.CollectionCorrections
import DocLint.Proofs.GeneratedTags
import DocLint.Proofs.IndependentSettings

/-!
# Findings move with their comments

When all lines of a comment are moved by the same number of lines and columns,
the texts that are read from it stay, and every place moves along.  Each stage
is shown to commute with the move: the body of a tag, the pieces of its texts,
the tags of a comment, and then one check after the other.  Columns only ever
enter a place as a distance from the column of their own line, so nothing but
the indentation of suggested tags depends on where the comment stands.
-/

namespace DocLint

open Text

/-- How far comments are moved. -/
structure Shift where
  lines : Nat
  columns : Nat
  deriving DecidableEq, Repr

/-! ## What is moved -/

/-- A comment line further down and to the right. -/
def CommentLine.moved (shift : Shift) (comment : CommentLine) : CommentLine :=
  { comment with
    line := comment.line + shift.lines
    column := comment.column + shift.columns }

/-- A declaration with all lines of its comment moved. -/
def Declaration.moved (shift : Shift) (declaration : Declaration) :
    Declaration :=
  { declaration with
    comments := declaration.comments.map (CommentLine.moved shift) }

/-- A span further down and to the right. -/
def Span.moved (shift : Shift) (span : Span) : Span where
  line := span.line + shift.lines
  startColumn := span.startColumn + shift.columns
  endColumn := span.endColumn + shift.columns

/-- A text with spaces put behind the line break that it starts with. -/
def indentedBy (count : Nat) (text : String) : String :=
  match text.toList with
  | '\n' :: rest => String.ofList ('\n' :: (List.replicate count ' ' ++ rest))
  | _ => text

/-- A finding with its spans moved.  A tag that is suggested for a parameter is
indented like the comment; no other text is changed. -/
def Finding.moved (shift : Shift) (finding : Finding) : Finding :=
  { finding with
    span := finding.span.moved shift
    correction := finding.correction.map fun correction =>
      { span := correction.span.moved shift
        replacement :=
          if finding.rule = .undocumentedArgument then
            indentedBy shift.columns correction.replacement
          else correction.replacement } }

/-- A line of a body further down and to the right. -/
def BodyLine.moved (shift : Shift) (line : BodyLine) : BodyLine :=
  { line with
    line := line.line + shift.lines
    column := line.column + shift.columns }

/-- A body with all its lines moved. -/
def Body.moved (shift : Shift) (body : Body) : Body where
  firstLine := body.firstLine.moved shift
  otherLines := body.otherLines.map (BodyLine.moved shift)

/-- A segment of lines that are moved. -/
def Segment.moved (shift : Shift) (segment : Segment) : Segment :=
  { segment with
    line := segment.line + shift.lines
    column := segment.column + shift.columns }

/-- A place further down and to the right. -/
def Place.moved (shift : Shift) (place : Place) : Place where
  line := place.line + shift.lines
  startColumn := place.startColumn + shift.columns
  endColumn := place.endColumn + shift.columns

/-- A piece further down and to the right. -/
def Piece.moved (shift : Shift) (piece : Piece) : Piece :=
  { piece with
    line := piece.line + shift.lines
    column := piece.column + shift.columns }

/-- A text with all its pieces moved. -/
def TagText.moved (shift : Shift) (text : TagText) : TagText :=
  { text with
    firstPiece := text.firstPiece.moved shift
    otherPieces := text.otherPieces.map (Piece.moved shift) }

/-- Fields with all their texts moved. -/
def TagFields.moved (shift : Shift) (fields : TagFields) : TagFields where
  name := fields.name.map (TagText.moved shift)
  key := fields.key.map (TagText.moved shift)
  types := fields.types.map (TagText.moved shift)
  misplacedTypes := fields.misplacedTypes.map (TagText.moved shift)

/-- A tag with all its texts moved. -/
def Tag.moved (shift : Shift) (tag : Tag) : Tag :=
  { tag with
    name := tag.name.map (TagText.moved shift)
    key := tag.key.map (TagText.moved shift)
    types := tag.types.map (TagText.moved shift)
    misplacedTypes := tag.misplacedTypes.map (TagText.moved shift) }

variable (shift : Shift)

/-! ## Bodies -/

namespace Body

theorem chars_moved (body : Body) :
    (body.moved shift).chars = body.chars := by
  unfold chars moved
  rw [List.flatMap_map]
  rfl

theorem segmentsFrom_moved
    (start : Nat)
    (lines : List BodyLine) :
    segmentsFrom start (lines.map (BodyLine.moved shift)) =
      (segmentsFrom start lines).map (Segment.moved shift) := by
  induction lines generalizing start with
  | nil => rfl
  | cons line rest hypothesis =>
      rw [List.map_cons, segmentsFrom, segmentsFrom, List.map_cons]
      exact congrArg _ (hypothesis _)

theorem segments_moved (body : Body) :
    (body.moved shift).segments = body.segments.map (Segment.moved shift) :=
  segmentsFrom_moved shift 0 (body.firstLine :: body.otherLines)

theorem segmentAt_moved
    (body : Body)
    (offset : Nat) :
    (body.moved shift).segmentAt offset =
      (body.segmentAt offset).moved shift := by
  have first : (body.moved shift).firstSegment =
      body.firstSegment.moved shift := rfl
  unfold segmentAt
  rw [segments_moved, ← List.map_reverse, List.find?_map, first]
  exact Option.getD_map (Segment.moved shift) _ _

end Body

namespace Segment

/-- A piece keeps its distance from the start of its segment. -/
theorem clip?_moved
    (segment : Segment)
    (start stop : Nat) :
    (segment.moved shift).clip? start stop =
      (segment.clip? start stop).map (Piece.moved shift) := by
  have sameStop : (segment.moved shift).stop = segment.stop := rfl
  have sameStart : (segment.moved shift).start = segment.start := rfl
  unfold clip?
  rw [sameStart, sameStop]
  split
  · simp only [Option.map_some, Piece.moved, Segment.moved, Nat.add_right_comm]
  · rfl

theorem pointAt_moved
    (segment : Segment)
    (offset : Nat) :
    (segment.moved shift).pointAt offset =
      (segment.pointAt offset).moved shift := by
  simp only [pointAt, Piece.moved, Segment.moved, Nat.add_right_comm]

end Segment

namespace Body

/-- A text of a moved body is the text of the body, moved. -/
theorem textAt_moved
    (body : Body)
    (before text : List Char) :
    (body.moved shift).textAt before text =
      (body.textAt before text).moved shift := by
  unfold textAt
  dsimp only
  rw [segments_moved, List.filterMap_map]
  have clipped : ((fun segment : Segment => segment.clip? (byteLength before)
      (byteLength before + byteLength text)) ∘ Segment.moved shift) =
        fun segment => (segment.clip? (byteLength before)
          (byteLength before + byteLength text)).map (Piece.moved shift) := by
    funext segment
    exact segment.clip?_moved shift _ _
  rw [clipped, ← List.map_filterMap]
  split
  · rename_i noPiece
    rw [List.map_eq_nil_iff.mp noPiece, segmentAt_moved, Segment.pointAt_moved]
    rfl
  · rename_i piece pieces found
    obtain ⟨first, others, foundHere, rfl, rfl⟩ := List.map_eq_cons_iff.mp found
    rw [foundHere]
    rfl

theorem cutting_moved (body : Body) :
    (body.moved shift).cutting = TagText.moved shift ∘ body.cutting := by
  funext cutting
  exact body.textAt_moved shift cutting.before cutting.text

end Body

/-! ## Tags -/

namespace TagFields

theorem typesAndName_moved
    (body : Body)
    (before rest : List Char) :
    typesAndName (body.moved shift) before rest =
      (typesAndName body before rest).moved shift := by
  unfold typesAndName
  simp only [Body.textAt_moved, Body.cutting_moved]
  split
  · simp only [TagFields.moved, Option.map_map, Option.map_some]
    rfl
  · simp only [TagFields.moved, Option.map_map]
    rfl

theorem firstBracketed?_moved (body : Body) :
    TagFields.mk none none none
        ((Cutting.firstBracketed? [] body.chars).map
          (body.moved shift).cutting) =
      TagFields.moved shift
        { misplacedTypes :=
          (Cutting.firstBracketed? [] body.chars).map body.cutting } := by
  rw [Body.cutting_moved, ← Option.map_map]
  rfl

theorem option_moved (body : Body) :
    option (body.moved shift) = (option body).moved shift := by
  unfold option
  rw [Body.chars_moved]
  split
  · rfl
  · split
    · exact firstBracketed?_moved shift body
    · dsimp only
      rw [typesAndName_moved, Body.cutting_moved]
      rfl

theorem typesOnly_moved (body : Body) :
    typesOnly (body.moved shift) = (typesOnly body).moved shift := by
  unfold typesOnly
  rw [Body.chars_moved]
  split
  · rw [Body.textAt_moved]
    rfl
  · exact firstBracketed?_moved shift body

end TagFields

namespace Tag

theorem ofBody_moved
    (index : Nat)
    (directive : String)
    (body : Body) :
    ofBody index directive (body.moved shift) =
      (ofBody index directive body).moved shift := by
  unfold ofBody
  rw [Body.chars_moved, TagFields.typesAndName_moved, TagFields.option_moved,
    TagFields.typesOnly_moved, Body.cutting_moved]
  split
  · simp only [Tag.moved, Function.comp_apply, Option.map_map]
    rfl
  · dsimp only
    generalize TagKind.ofDirective directive = kind
    cases kind <;> rfl

end Tag

namespace CommentLine

theorem tagLine_moved
    (comment : CommentLine)
    (cut : DirectiveCut) :
    (comment.moved shift).tagLine cut = (comment.tagLine cut).moved shift := by
  have markerEq : (comment.moved shift).marker = comment.marker := rfl
  unfold tagLine BodyLine.moved
  rw [markerEq]
  simp only [moved, Nat.add_right_comm]

theorem continuationLine_moved (comment : CommentLine) :
    (comment.moved shift).continuationLine =
      comment.continuationLine.moved shift := by
  have markerEq : (comment.moved shift).marker = comment.marker := rfl
  unfold continuationLine BodyLine.moved
  rw [markerEq]
  simp only [moved, Nat.add_right_comm]
  rfl

theorem endColumn_moved (comment : CommentLine) :
    (comment.moved shift).endColumn = comment.endColumn + shift.columns := by
  simp only [endColumn, moved, Nat.add_right_comm]

end CommentLine

namespace Tag

/-- Which lines belong to a tag is seen in their texts alone. -/
theorem ofLines_moved (lines : List (CommentLine × Nat)) :
    ofLines (lines.map (Prod.map (CommentLine.moved shift) id)) =
      (ofLines lines).map (Tag.moved shift) := by
  induction lines with
  | nil => rfl
  | cons line rest hypothesis =>
      obtain ⟨comment, index⟩ := line
      have directive : (comment.moved shift).directive? =
          comment.directive? := rfl
      rw [List.map_cons, Prod.map_apply, ofLines, ofLines, directive,
        hypothesis]
      split
      · rfl
      · rename_i cut _
        dsimp only
        rw [List.map_cons, ← ofBody_moved, List.takeWhile_map, List.map_map]
        congr 2
        rw [Body.moved, CommentLine.tagLine_moved, List.map_map]
        congr 1
        apply List.map_congr_left
        intro line _
        exact line.1.continuationLine_moved shift

/-- The tags of a moved comment are its tags, moved. -/
theorem extract_moved (comments : List CommentLine) :
    extract (comments.map (CommentLine.moved shift)) =
      (extract comments).map (Tag.moved shift) := by
  rw [extract, extract, ← ofLines_moved, List.zipIdx_map, List.filter_map]
  rfl

end Tag

/-! ## Places -/

namespace TagText

theorem text_moved (text : TagText) : (text.moved shift).text = text.text := rfl

theorem pieceAt?_moved
    (text : TagText)
    (offset : Nat) :
    (text.moved shift).pieceAt? offset =
      (text.pieceAt? offset).map (Piece.moved shift) := by
  have pieces : (text.moved shift).pieces =
      text.pieces.map (Piece.moved shift) := rfl
  rw [pieceAt?, pieceAt?, pieces, ← List.map_reverse, List.find?_map]
  rfl

theorem locate?_moved
    (text : TagText)
    (start stop : Nat) :
    (text.moved shift).locate? start stop =
      (text.locate? start stop).map (Place.moved shift) := by
  unfold locate?
  rw [pieceAt?_moved]
  cases text.pieceAt? start with
  | none => rfl
  | some piece =>
      simp only [Option.map_some, Piece.moved]
      split
      · rfl
      · simp only [Option.map_some, Place.moved, Nat.add_right_comm]

theorem place_moved (text : TagText) :
    (text.moved shift).place = text.place.moved shift := by
  simp only [place, Piece.place, TagText.moved, Piece.moved, Place.moved,
    Nat.add_right_comm]

theorem locateToLineEnd_moved
    (text : TagText)
    (offset : Nat) :
    (text.moved shift).locateToLineEnd offset =
      (text.locateToLineEnd offset).moved shift := by
  unfold locateToLineEnd
  rw [pieceAt?_moved]
  cases text.pieceAt? offset with
  | none => exact text.place_moved shift
  | some piece =>
      simp only [Option.map_some, Piece.moved, Place.moved, Nat.add_right_comm]

end TagText

namespace Span

theorem between_moved (line startColumn endColumn : Nat) :
    between (line + shift.lines) (startColumn + shift.columns)
        (endColumn + shift.columns) =
      (between line startColumn endColumn).moved shift := by
  simp only [between, Span.moved, Nat.add_max_add_right]

theorem ofPlace_moved (place : Place) :
    ofPlace (place.moved shift) = (ofPlace place).moved shift :=
  between_moved shift _ _ _

theorem ofComment_moved (comment : CommentLine) :
    ofComment (comment.moved shift) = (ofComment comment).moved shift := by
  rw [ofComment, CommentLine.endColumn_moved]
  exact between_moved shift _ _ _

end Span

/-! ## Findings -/

namespace Finding

theorem of_moved
    (rule : Rule)
    (message : String)
    (span : Span) :
    Finding.of rule message (span.moved shift) =
      (Finding.of rule message span).moved shift := rfl

theorem rule_moved (finding : Finding) :
    (finding.moved shift).rule = finding.rule := rfl

end Finding

namespace Check

theorem syntaxFinding_moved
    (types : TagText)
    (error : SyntaxError) :
    syntaxFinding (types.moved shift) error =
      (syntaxFinding types error).moved shift := by
  unfold syntaxFinding
  dsimp only
  rw [TagText.locateToLineEnd_moved, ← Finding.of_moved, ← Span.between_moved,
    ← Nat.add_max_add_right]
  simp only [Place.moved, Nat.add_right_comm]

theorem alternativeSpan_moved
    (types : TagText)
    (alternative : Alternative) :
    alternativeSpan (types.moved shift) alternative =
      (alternativeSpan types alternative).moved shift := by
  unfold alternativeSpan
  rw [TagText.locate?_moved, TagText.locateToLineEnd_moved,
    ← Span.ofPlace_moved, Option.getD_map]

/-- A correction of types is the same text in its new place. -/
theorem reported_moved
    (types : TagText)
    (style : Style)
    (alternative : Alternative)
    {rule : Rule}
    (isCollection : rule.isCollection = true)
    (message : String) :
    reported (types.moved shift) style alternative rule message =
      (reported types style alternative rule message).moved shift := by
  have notParameter : rule ≠ .undocumentedArgument := by
    rintro rfl
    exact absurd isCollection (by decide)
  unfold reported Finding.moved
  rw [alternativeSpan_moved, TagText.locate?_moved, Option.isSome_map]
  simp only [if_neg notParameter]
  split <;> rfl

theorem alternativeFindings_moved
    (types : TagText)
    (style : Style)
    (alternative : Alternative) :
    alternativeFindings (types.moved shift) style alternative =
      (alternativeFindings types style alternative).map
        (Finding.moved shift) := by
  rw [alternativeFindings_eq, alternativeFindings_eq, List.map_map]
  apply List.map_congr_left
  intro complaint member
  exact reported_moved shift types style alternative
    (isCollection_of_mem_complaints member) complaint.2

theorem tagTypes_moved
    (style : Style)
    (tag : Tag) :
    tagTypes style (tag.moved shift) =
      (tagTypes style tag).map (Finding.moved shift) := by
  unfold tagTypes Tag.moved
  dsimp only
  cases tag.types with
  | none => rfl
  | some types =>
      simp only [Option.map_some, TagText.text_moved]
      split
      · split
        · rw [List.map_flatMap]
          exact List.flatMap_congr fun alternative _ =>
            alternativeFindings_moved shift types style alternative
        · rw [syntaxFinding_moved]
          rfl
      · rfl

theorem tagPositions_moved
    (comments : List CommentLine)
    (tags : List Tag) :
    tagPositions (comments.map (CommentLine.moved shift))
        (tags.map (Tag.moved shift)) =
      (tagPositions comments tags).map (Finding.moved shift) := by
  unfold tagPositions
  rw [List.filterMap_map, List.map_filterMap]
  apply List.filterMap_congr
  intro tag _
  simp only [Function.comp_apply, List.getElem?_map, Tag.moved]
  cases tag.misplacedTypes with
  | none => rfl
  | some misplaced =>
      cases comments[tag.lineIndex]? with
      | none => rfl
      | some comment =>
          dsimp [bind]
          rw [Span.ofComment_moved]
          rfl

theorem tagFinding?_moved
    (names : List String)
    (comment : CommentLine)
    (tag : Tag) :
    tagFinding? names (comment.moved shift) (tag.moved shift) =
      (tagFinding? names comment tag).map (Finding.moved shift) := by
  unfold tagFinding? Tag.moved
  dsimp only
  rw [Span.ofComment_moved]
  cases tag.name with
  | none => rfl
  | some name =>
      cases tag.types with
      | none => rfl
      | some types =>
          simp only [Option.map_some, TagText.text_moved, TagText.place_moved,
            Span.ofPlace_moved]
          split
          · rfl
          · split <;> rfl

/-- The suggested tag is indented as far as the line above it. -/
theorem suggestion_moved
    (prototype : Prototype)
    (column : Nat)
    (name : String)
    (parameter : Parameter) :
    suggestion prototype (column + shift.columns) name parameter =
      indentedBy shift.columns
        (suggestion prototype column name parameter) := by
  have spaces : List.replicate (column + shift.columns) ' ' =
      List.replicate shift.columns ' ' ++ List.replicate column ' ' := by
    rw [Nat.add_comm, List.replicate_add]
  apply String.toList_inj.mp
  rw [indentedBy, toList_suggestion, toList_suggestion, spaces]
  simp only [String.toList_ofList, List.append_assoc]

theorem undocumentedFinding?_moved
    (prototype : Prototype)
    (last : CommentLine)
    (documented : List String)
    (parameter : Parameter) :
    undocumentedFinding? prototype (last.moved shift) documented parameter =
      (undocumentedFinding? prototype last documented parameter).map
        (Finding.moved shift) := by
  unfold undocumentedFinding?
  cases parameter.needsDocumentation with
  | false => rfl
  | true =>
      cases parameter.name with
      | none => rfl
      | some name =>
          dsimp only [bind, Option.bind]
          cases documented.contains name with
          | true => rfl
          | false =>
              have point : Span.point (last.moved shift).line
                  (last.moved shift).endColumn =
                    (Span.point last.line last.endColumn).moved shift := by
                rw [CommentLine.endColumn_moved]
                exact Span.between_moved shift _ _ _
              have indented := suggestion_moved shift prototype last.column
                name parameter
              rw [point, Span.ofComment_moved,
                show (last.moved shift).column = last.column + shift.columns
                  from rfl, indented]
              rfl

variable (declaration : Declaration)
variable (tags : List Tag)

/-- A check that looks at tags together with the lines that they start on moves
with the comment if it does so for each tag. -/
theorem filterMap_moved
    {find : CommentLine → Tag → Option Finding}
    (moves : ∀ comment tag, find (comment.moved shift) (tag.moved shift) =
      (find comment tag).map (Finding.moved shift))
    (comments : List CommentLine) :
    ((tags.map (Tag.moved shift)).filterMap fun tag =>
        (comments.map (CommentLine.moved shift))[tag.lineIndex]?.bind
          fun comment => find comment tag) =
      (tags.filterMap fun tag => comments[tag.lineIndex]?.bind
        fun comment => find comment tag).map (Finding.moved shift) := by
  rw [List.filterMap_map, List.map_filterMap]
  apply List.filterMap_congr
  intro tag _
  have sameIndex : (tag.moved shift).lineIndex = tag.lineIndex := rfl
  rw [Function.comp_apply, sameIndex, List.getElem?_map]
  cases comments[tag.lineIndex]? with
  | none => rfl
  | some comment => exact moves comment tag

theorem reconciledTags_moved :
    reconciledTags (declaration.moved shift) (tags.map (Tag.moved shift)) =
      (reconciledTags declaration tags).map (Finding.moved shift) := by
  have sameTags : isReconciled ∘ Tag.moved shift = isReconciled := by
    funext tag
    simp [isReconciled, Tag.moved, Tag.documentsParameter]
  unfold reconciledTags
  rw [List.filter_map, sameTags]
  exact filterMap_moved shift _
    (tagFinding?_moved shift declaration.parameterNames) declaration.comments

theorem documentedNames_moved :
    documentedNames (tags.map (Tag.moved shift)) = documentedNames tags := by
  have sameTags : Tag.documentsParameter ∘ Tag.moved shift =
      Tag.documentsParameter := rfl
  unfold documentedNames
  rw [List.filter_map, sameTags, List.filterMap_map]
  have names : Tag.name ∘ Tag.moved shift =
      fun tag => tag.name.map (TagText.moved shift) := rfl
  rw [names, ← List.map_filterMap, List.map_map]
  rfl

theorem any_moved
    {holds : Tag → Bool}
    (sees : ∀ tag : Tag, holds (tag.moved shift) = holds tag) :
    (tags.map (Tag.moved shift)).any holds = tags.any holds := by
  rw [List.any_map]
  exact congrArg tags.any (funext sees)

theorem lastLeading?_moved (comments : List CommentLine) :
    lastLeading? (comments.map (CommentLine.moved shift)) =
      (lastLeading? comments).map (CommentLine.moved shift) := by
  rw [lastLeading?, lastLeading?, ← List.map_reverse, List.find?_map]
  rfl

theorem undocumentedArguments_moved (prototype : Prototype) :
    undocumentedArguments (declaration.moved shift)
        (tags.map (Tag.moved shift)) prototype =
      (undocumentedArguments declaration tags prototype).map
        (Finding.moved shift) := by
  have last : lastLeading? (declaration.moved shift).comments =
      (lastLeading? declaration.comments).map (CommentLine.moved shift) :=
    lastLeading?_moved shift declaration.comments
  unfold undocumentedArguments
  rw [any_moved shift tags fun _ => rfl, documentedNames_moved, last]
  split
  · cases lastLeading? declaration.comments with
    | none => rfl
    | some last =>
        dsimp only [Option.map_some]
        rw [List.map_filterMap]
        exact List.filterMap_congr fun parameter _ =>
          undocumentedFinding?_moved shift prototype last _ parameter
  · rfl

theorem arguments_moved (prototype : Prototype) :
    arguments (declaration.moved shift) (tags.map (Tag.moved shift))
        prototype =
      (arguments declaration tags prototype).map (Finding.moved shift) := by
  have kind : (declaration.moved shift).kind = declaration.kind := rfl
  have parameters : (declaration.moved shift).parameters =
      declaration.parameters := rfl
  unfold arguments
  rw [any_moved shift tags fun _ => rfl, kind, parameters,
    reconciledTags_moved, undocumentedArguments_moved, ← List.map_append]
  split <;> rfl

theorem meaninglessTags_moved :
    meaninglessTags (declaration.moved shift) (tags.map (Tag.moved shift)) =
      (meaninglessTags declaration tags).map (Finding.moved shift) := by
  have sameTags : Tag.documentsParameter ∘ Tag.moved shift =
      Tag.documentsParameter := rfl
  unfold meaninglessTags
  rw [List.filter_map, sameTags, apply_ite (List.map (Finding.moved shift))]
  congr 1
  apply filterMap_moved
  intro comment tag
  rw [Span.ofComment_moved]
  rfl

end Check

/-! ## The findings for a declaration -/

theorem Settings.allFindings_moved
    (settings : Settings)
    (declaration : Declaration) :
    settings.allFindings (declaration.moved shift) =
      (settings.allFindings declaration).map (Finding.moved shift) := by
  have tags : Tag.extract (declaration.moved shift).comments =
      (Tag.extract declaration.comments).map (Tag.moved shift) :=
    Tag.extract_moved shift declaration.comments
  have comments : (declaration.moved shift).comments =
      declaration.comments.map (CommentLine.moved shift) := rfl
  have kind : (declaration.moved shift).kind = declaration.kind := rfl
  unfold allFindings
  dsimp only
  rw [tags, comments, kind, Check.tagPositions_moved, Check.arguments_moved,
    Check.meaninglessTags_moved, List.map_append, List.map_append]
  congr 1
  · congr 1
    rw [List.flatMap_map, List.map_flatMap]
    exact List.flatMap_congr fun tag _ =>
      Check.tagTypes_moved shift settings.style tag
  · split <;> rfl

/-- Whatever is configured, the findings for a declaration whose comment is
moved are those for the declaration, moved as far. -/
theorem check_moved
    (config : Config)
    (declaration : Declaration)
    (shift : Shift) :
    (Checker.mk config none).check (declaration.moved shift) =
      ((Checker.mk config none).check declaration).map
        (Finding.moved shift) := by
  unfold Checker.check
  rw [Settings.check_eq_chosen, Settings.check_eq_chosen,
    Settings.allFindings_moved]
  refine (Settings.map_chosen _ _ ?_ ?_).symm
  · exact Finding.rule_moved shift
  · exact fun finding severity => rfl

-- A correction on the line itself keeps its text, a suggested line is indented.
example :
    ((Checker.mk {} none).check <| Declaration.moved ⟨10, 4⟩
      { kind := .method
        name := "put"
        line := 2
        column := 0
        parameters := [⟨some "a", .required, none⟩, ⟨some "b", .rest, none⟩]
        comments := [⟨1, 0, "# @param [<é>] a", true⟩] }).map
          Finding.correction =
      [some ⟨⟨11, 14, 18⟩, "Array<é>"⟩,
        some ⟨⟨11, 21, 21⟩, "\n    # @param [Array<Object>] b"⟩] := by
  decide +kernel

end DocLint
