import DocLint.Proofs.CollectionCorrections
import DocLint.Proofs.FindingOrigins
import DocLint.Proofs.TagPlaces

/-!
# Every finding stands on a comment line

Findings stand on whole comments, on names, on alternatives of types, or from an
error to the end of its line.  All of these are parts of one leading comment
line; only an error at the very end of a line is given one column behind it.
Corrections replace what is reported, or go behind the last leading line.
-/

namespace DocLint

open Text

/-! ## Spans on comment lines -/

/-- A span lies on a comment line, up to some columns beyond its end. -/
structure Span.LiesOn
    (span : Span)
    (comment : CommentLine)
    (beyond : Nat) : Prop where
  line_eq : span.line = comment.line
  start : comment.column ≤ span.startColumn
  order : span.startColumn ≤ span.endColumn
  stop : span.endColumn ≤ comment.endColumn + beyond

namespace Span

theorem liesOn_ofComment (comment : CommentLine) :
    (ofComment comment).LiesOn comment 0 := by
  refine ⟨rfl, Nat.le_refl _, Nat.le_max_right _ _, ?_⟩
  simp only [ofComment, between, CommentLine.endColumn]
  omega

/-- A part of a comment line's text lies on that line. -/
theorem liesOn_of_hasAt
    {comment : CommentLine}
    {part : List Char}
    {span : Span}
    (hasAt : comment.HasAt part span) :
    span.LiesOn comment 0 := by
  obtain ⟨left, right, text, rfl⟩ := hasAt
  refine ⟨rfl, Nat.le_add_right _ _, Nat.le_add_right _ _, ?_⟩
  simp only [CommentLine.endColumn, text, byteLength_append]
  omega

end Span

/-- A piece of a body line lies on the comment line that the body line ends. -/
theorem Piece.LiesOn.ofPlace
    {piece : Piece}
    {line : BodyLine}
    (liesOn : piece.LiesOn line)
    {comment : CommentLine}
    (isEndOf : line.IsEndOf comment) :
    (Span.ofPlace piece.place).LiesOn comment 0 := by
  obtain ⟨lineEq, start, stop⟩ := liesOn
  obtain ⟨numberEq, front, text, column⟩ := isEndOf
  have endColumn : comment.endColumn =
      line.column + byteLength line.chars := by
    rw [CommentLine.endColumn, text, byteLength_append, column]
    omega
  refine ⟨lineEq.trans numberEq, ?_, Nat.le_max_right _ _, ?_⟩
  · simp only [Span.ofPlace, Span.between, Piece.place]
    omega
  · simp only [Span.ofPlace, Span.between, Piece.place]
    omega

namespace TagText

variable {comments : List CommentLine}
variable {block : TagBlock}
variable {text : TagText}

/-- Every piece of a text of a tag lies on a leading comment line. -/
theorem IsPartOf.exists_comment
    (isPartOf : text.IsPartOf block.body)
    (isBlock : block ∈ TagBlock.ofComments comments)
    {piece : Piece}
    (isPiece : piece ∈ text.pieces) :
    ∃ comment ∈ comments, comment.leading = true ∧
      (Span.ofPlace piece.place).LiesOn comment 0 := by
  obtain ⟨cutting, _, rfl⟩ := isPartOf
  obtain ⟨line, isLine, liesOn⟩ := Body.exists_liesOn isPiece
  obtain ⟨comment, inComments, leading, isEndOf⟩ :=
    TagBlock.exists_isEndOf isBlock isLine
  exact ⟨comment, inComments, leading, liesOn.ofPlace isEndOf⟩

/-- From a byte position to the end of its line is the end of some piece. -/
theorem exists_locateToLineEnd
    (text : TagText)
    (offset : Nat) :
    ∃ piece ∈ text.pieces, ∃ skipped ≤ piece.length,
      text.locateToLineEnd offset =
        ⟨piece.line, piece.column + skipped, piece.column + piece.length⟩ := by
  unfold locateToLineEnd
  split
  · exact ⟨text.firstPiece, List.mem_cons_self, 0, Nat.zero_le _, rfl⟩
  · rename_i piece found
    exact ⟨piece, List.mem_reverse.mp (List.mem_of_find?_eq_some found),
      _, Nat.min_le_right _ _, rfl⟩

end TagText

/-! ## Findings on comment lines -/

/-- A finding stands on a leading line of a comment.  Types that cannot be read
are reported with one column at least, which may be the one behind the line.  A
correction is made where the finding is, or behind the last leading line. -/
structure Finding.StandsIn
    (comments : List CommentLine)
    (finding : Finding) : Prop where
  onLine : ∃ comment ∈ comments, comment.leading = true ∧
    finding.span.LiesOn comment
      (if finding.rule = .tagTypeSyntax then 1 else 0)
  nonempty : finding.rule = .tagTypeSyntax →
    finding.span.startColumn < finding.span.endColumn
  correction : ∀ correction, finding.correction = some correction →
    correction.span = finding.span ∨
      ∃ last, lastLeading? comments = some last ∧
        correction.span = Span.point last.line last.endColumn

section Standing

variable {comments : List CommentLine}

/-- A finding without a correction only has to lie on a leading line. -/
theorem Finding.standsIn_of
    {rule : Rule}
    (notSyntax : rule ≠ .tagTypeSyntax)
    {span : Span}
    {comment : CommentLine}
    (inComments : comment ∈ comments)
    (leading : comment.leading = true)
    (liesOn : span.LiesOn comment 0)
    (message : String) :
    (Finding.of rule message span).StandsIn comments := by
  refine ⟨⟨comment, inComments, leading, ?_⟩, ?_, ?_⟩
  · have allowed : (if (Finding.of rule message span).rule = .tagTypeSyntax
        then 1 else 0) = 0 := if_neg notSyntax
    rw [allowed]
    exact liesOn
  · exact fun isSyntax => absurd isSyntax notSyntax
  · exact fun correction given => absurd given (by simp [Finding.of])

/-- A finding for a tag as a whole stands on the first line of the tag. -/
theorem Finding.standsIn_ofComment
    {rule : Rule}
    (notSyntax : rule ≠ .tagTypeSyntax)
    {tag : Tag}
    (isTag : tag ∈ Tag.extract comments)
    {comment : CommentLine}
    (isComment : comments[tag.lineIndex]? = some comment)
    (message : String) :
    (Finding.of rule message (Span.ofComment comment)).StandsIn comments := by
  obtain ⟨found, inComments, indexed, leading⟩ := Tag.exists_comment isTag
  obtain rfl : found = comment := Option.some.inj (indexed.symm.trans isComment)
  exact standsIn_of notSyntax inComments leading (Span.liesOn_ofComment found)
    message

/-- A finding that is placed like an alternative stands on a leading line. -/
theorem IsPlaced.standsIn
    {body : Body}
    {position : Nat}
    {types : TagText}
    {alternative : Alternative}
    {finding : Finding}
    (isPlaced : IsPlaced comments body position types alternative finding)
    (notSyntax : finding.rule ≠ .tagTypeSyntax) :
    finding.StandsIn comments := by
  refine ⟨?_, fun isSyntax => absurd isSyntax notSyntax, ?_⟩
  · rw [if_neg notSyntax]
    cases given : finding.correction with
    | some correction =>
        obtain ⟨spanEq, comment, inComments, leading, hasAt⟩ :=
          isPlaced.corrected correction given
        rw [spanEq] at hasAt
        exact ⟨comment, inComments, leading, Span.liesOn_of_hasAt hasAt⟩
    | none =>
        obtain ⟨comment, inComments, leading, left, part, _, text, _, spanEq⟩ :=
          isPlaced.cut given
        refine ⟨comment, inComments, leading, ?_⟩
        rw [spanEq]
        refine ⟨rfl, Nat.le_add_right _ _, ?_, Nat.le_refl _⟩
        simp only [CommentLine.endColumn, text, byteLength_append]
        omega
  · intro correction given
    exact Or.inl (isPlaced.corrected correction given).1

namespace Check

theorem standsIn_syntaxFinding
    {block : TagBlock}
    (isBlock : block ∈ TagBlock.ofComments comments)
    {types : TagText}
    (isPartOf : types.IsPartOf block.body)
    (error : SyntaxError) :
    (syntaxFinding types error).StandsIn comments := by
  obtain ⟨piece, isPiece, skipped, inPiece, place⟩ :=
    types.exists_locateToLineEnd error.offset
  obtain ⟨comment, inComments, leading, lineEq, start, _, stop⟩ :=
    isPartOf.exists_comment isBlock isPiece
  simp only [Span.ofPlace, Span.between, Piece.place] at lineEq start stop
  unfold syntaxFinding
  rw [place]
  refine ⟨⟨comment, inComments, leading, lineEq, ?_, Nat.le_max_right _ _, ?_⟩,
    ?_, fun correction given => absurd given (by simp [Finding.of])⟩
  · simp only [Finding.of, Span.between]
    omega
  · simp only [Finding.of, Span.between, if_true]
    omega
  · intro _
    simp only [Finding.of, Span.between]
    omega

/-- Findings for the types of a tag stand on the lines of the tag. -/
theorem standsIn_of_mem_tagTypes
    {tag : Tag}
    (isTag : tag ∈ Tag.extract comments)
    {style : Style}
    {finding : Finding}
    (member : finding ∈ tagTypes style tag) :
    finding.StandsIn comments := by
  obtain ⟨block, isBlock, rfl⟩ := TagBlock.exists_of_mem_extract isTag
  rcases mem_tagTypes_cases member with
    ⟨types, error, hasTypes, _, rfl⟩ |
    ⟨types, alternatives, alternative, hasTypes, parsed, isAlternative,
      complaint, complains, rfl⟩
  · have isPartOf := (Tag.areOf_ofBody _ _ _).types types hasTypes
    exact standsIn_syntaxFinding isBlock isPartOf error
  · obtain ⟨before, after, chars, typesEq⟩ := TagBlock.exists_cut hasTypes
    obtain ⟨raw, standsOn, writes⟩ := exists_raw_of_parsed parsed isAlternative
    have isPlaced := isPlaced_reported isBlock chars typesEq standsOn writes
      style complaint.1 complaint.2
    refine isPlaced.standsIn ?_
    intro isSyntax
    have isCollection := isCollection_of_mem_complaints complains
    rw [show complaint.1 = .tagTypeSyntax from isSyntax] at isCollection
    exact absurd isCollection (by decide)

variable {declaration : Declaration}
variable {finding : Finding}

theorem standsIn_of_mem_reconciledTags
    (member : finding ∈ reconciledTags declaration
      (Tag.extract declaration.comments)) :
    finding.StandsIn declaration.comments := by
  obtain ⟨tag, isTag, comment, _, isComment, found⟩ :=
    exists_of_mem_reconciledTags member
  rcases tagFinding?_cases found with
    ⟨message, _, rfl⟩ | ⟨name, _, _, message, hasName, _, _, _, rfl⟩
  · exact Finding.standsIn_ofComment (by decide) isTag isComment message
  · obtain ⟨block, isBlock, rfl⟩ := TagBlock.exists_of_mem_extract isTag
    have isPartOf := (Tag.areOf_ofBody _ _ _).name name hasName
    obtain ⟨onComment, inComments, leading, liesOn⟩ :=
      isPartOf.exists_comment isBlock
        (show name.firstPiece ∈ name.pieces from List.mem_cons_self)
    exact Finding.standsIn_of (by decide) inComments leading liesOn message

theorem standsIn_of_mem_undocumentedArguments
    {tags : List Tag}
    {prototype : Prototype}
    (member : finding ∈ undocumentedArguments declaration tags prototype) :
    finding.StandsIn declaration.comments := by
  obtain ⟨last, isLast, parameter, _, found⟩ :=
    exists_of_mem_undocumentedArguments member
  obtain ⟨name, message, _, _, _, rfl⟩ := exists_of_undocumentedFinding? found
  have inComments : last ∈ declaration.comments :=
    List.mem_reverse.mp (List.mem_of_find?_eq_some isLast)
  refine ⟨⟨last, inComments, List.find?_some isLast,
    Span.liesOn_ofComment last⟩,
    fun isSyntax => absurd isSyntax (by simp [Finding.of]), ?_⟩
  intro correction given
  obtain rfl := Option.some.inj given
  exact Or.inr ⟨last, isLast, rfl⟩

end Check

/-- Every finding of the checks stands on a leading line. -/
theorem Settings.standsIn_of_mem_allFindings
    {settings : Settings}
    {declaration : Declaration}
    {finding : Finding}
    (member : finding ∈ settings.allFindings declaration) :
    finding.StandsIn declaration.comments := by
  rcases mem_allFindings_cases member with
    ⟨tag, isTag, member⟩ | member | member | member
  · exact Check.standsIn_of_mem_tagTypes isTag member
  · obtain ⟨tag, isTag, comment, message, _, isComment, rfl⟩ :=
      Check.exists_of_mem_tagPositions member
    exact Finding.standsIn_ofComment (by decide) isTag isComment message
  · rcases Check.mem_arguments_cases member with member | member
    · exact Check.standsIn_of_mem_reconciledTags member
    · exact Check.standsIn_of_mem_undocumentedArguments member
  · obtain ⟨tag, isTag, comment, message, isComment, rfl⟩ :=
      Check.exists_of_mem_meaninglessTags member
    exact Finding.standsIn_ofComment (by decide) isTag isComment message

end Standing

/-- Whatever is configured, each finding for a declaration stands on a leading
line of its comment, and so does its correction, unless it goes behind the last
leading line. -/
theorem check_standsIn
    (config : Config)
    (declaration : Declaration) :
    ∀ finding ∈ (Checker.mk config none).check declaration,
      finding.StandsIn declaration.comments := by
  intro finding member
  obtain ⟨original, found, _, rfl⟩ := Settings.mem_check.mp member
  -- Only the severity of a finding is configured.
  obtain ⟨onLine, nonempty, correction⟩ :=
    Settings.standsIn_of_mem_allFindings found
  exact ⟨onLine, nonempty, correction⟩

/-! ## Types that are left open -/

/-- A method whose only tag leaves its types open at the end of the line. -/
def openTypes : Declaration where
  kind := .method
  name := "store"
  line := 5
  column := 2
  parameters := [⟨some "é", .required, none⟩]
  comments :=
    [⟨3, 2, "# @param [Array<", true⟩, ⟨4, 20, "# @param", false⟩]

/-- What is found where the types end. -/
def openTypesFinding : Finding where
  rule := .tagTypeSyntax
  message := "(SyntaxError) expecting name, got end of input"
  span := ⟨3, 18, 19⟩
  severity := .error
  correction := none

/-- The line of the tag ends at column 18, and the finding stands there with one
column behind it. -/
theorem check_standsIn_open_types :
    openTypesFinding ∈ (Checker.mk {} none).check openTypes ∧
      openTypesFinding.StandsIn openTypes.comments := by
  have member :
      openTypesFinding ∈ (Checker.mk {} none).check openTypes := by
    decide +kernel
  exact ⟨member, check_standsIn {} openTypes openTypesFinding member⟩

end DocLint
