import DocLint.Proofs.CorrectionFixpoint
import DocLint.Proofs.FindingSpans
import DocLint.Proofs.IndependentSettings
import DocLint.Proofs.TagExtraction
import Mathlib.Data.List.Forall2

/-!
# The order of findings

Findings come check by check, and those of one check come in the order of the
source.  The blocks of a comment follow each other and share no line, so it is
enough that every finding stands on a line of the block that it is about.
Within a block the alternatives of the types follow each other, on one line or
on several ones.
-/

namespace DocLint

open Text

/-- A span starts where another one does or in front of it. -/
def Span.StartsBy (span other : Span) : Prop :=
  span.line < other.line ∨
    span.line = other.line ∧ span.startColumn ≤ other.startColumn

/-- A finding stands on a line of a block. -/
def Finding.IsOn (finding : Finding) (block : TagBlock) : Prop :=
  ∃ comment ∈ block.comments, finding.span.line = comment.line

/-! ## Bytes of a body in order -/

/-- In a body whose lines are in order, a byte in front of another one is not
found behind it. -/
theorem Body.IsByteAt.inOrder
    {body : Body}
    (increasing : (body.lines.map BodyLine.line).Pairwise (· < ·))
    {position line column otherPosition otherLine otherColumn : Nat}
    (isByteAt : body.IsByteAt position line column)
    (otherIsByteAt : body.IsByteAt otherPosition otherLine otherColumn)
    (inFront : position ≤ otherPosition) :
    line < otherLine ∨ line = otherLine ∧ column ≤ otherColumn := by
  obtain ⟨earlier, found, later, left, right, split, chars, nonempty, rfl, rfl,
    rfl⟩ := isByteAt
  obtain ⟨otherEarlier, other, otherLater, otherLeft, otherRight, otherSplit,
    otherChars, otherNonempty, rfl, rfl, rfl⟩ := otherIsByteAt
  rw [byteLength_append, byteLength_append] at inFront
  rw [split] at otherSplit increasing
  rcases List.append_eq_append_iff.mp otherSplit with
    ⟨between, rfl, behind⟩ | ⟨between, rfl, behind⟩
  · cases between with
    | nil =>
        obtain ⟨rfl, _⟩ := List.cons.inj behind
        rw [List.append_nil] at inFront
        exact Or.inr ⟨rfl, by omega⟩
    | cons first more =>
        obtain ⟨rfl, rfl⟩ := List.cons.inj behind
        have behindFound := (List.pairwise_append.mp
          (List.pairwise_map.mp increasing)).2.1
        exact Or.inl ((List.pairwise_cons.mp behindFound).1 other (by simp))
  · cases between with
    | nil =>
        obtain ⟨rfl, _⟩ := List.cons.inj behind
        rw [List.append_nil] at inFront
        exact Or.inr ⟨rfl, by omega⟩
    | cons first more =>
        -- The other line would end in front of the byte.
        obtain ⟨rfl, _⟩ := List.cons.inj behind
        rw [joined_append, joined_cons, byteLength_append, byteLength_append,
          byteLength_cons, otherChars, byteLength_append] at inFront
        have positive := byteLength_pos otherNonempty
        omega

/-- Alternatives start in the order in which they are read. -/
theorem pairwise_starts_of_parsed
    {text : List Char}
    {alternatives : List Alternative}
    (parsed : TypeExpr.parseAlternatives text = .ok alternatives) :
    alternatives.Pairwise fun alternative later =>
      alternative.start ≤ later.start := by
  rcases parseAlternatives_eq_ok_iff_arranged.mp parsed with
    ⟨_, rfl⟩ | ⟨arranged, _⟩
  · exact List.Pairwise.nil
  · refine arranged.pairwise.imp_of_mem ?_
    intro alternative later isAlternative _ inFront
    have bounds := arranged.bounds isAlternative
    omega

/-! ## Blocks in order -/

section InOrder

variable {comments : List CommentLine}

/-- The last leading line is behind all other leading lines. -/
theorem line_le_of_lastLeading?
    (increasing : (comments.map CommentLine.line).Pairwise (· < ·))
    {last : CommentLine}
    (isLast : lastLeading? comments = some last)
    {comment : CommentLine}
    (inComments : comment ∈ comments)
    (leading : comment.leading = true) :
    comment.line ≤ last.line := by
  obtain ⟨_, trailing, front, reversed, noLeading⟩ :=
    List.find?_eq_some_iff_append.mp isLast
  obtain rfl : comments = front.reverse ++ last :: trailing.reverse := by
    rw [← List.reverse_inj, reversed]
    simp
  rcases List.mem_append.mp inComments with inFront | behind
  · have apart := (List.pairwise_append.mp
      (List.pairwise_map.mp increasing)).2.2
    exact Nat.le_of_lt (apart comment inFront last List.mem_cons_self)
  · rcases List.mem_cons.mp behind with rfl | trails
    · exact Nat.le_refl _
    · have notLeading := noLeading comment (List.mem_reverse.mp trails)
      exact absurd leading (by simpa using notLeading)

namespace TagBlock

/-- The lines of all blocks are in order. -/
theorem pairwise_line_flatMap
    (increasing : (comments.map CommentLine.line).Pairwise (· < ·)) :
    ((ofComments comments).flatMap TagBlock.comments).Pairwise
      fun comment later => comment.line < later.line :=
  (List.pairwise_map.mp increasing).sublist
    ((comments_ofComments_sublist comments).trans List.filter_sublist)

/-- The lines of a block are in front of those of the next blocks. -/
theorem pairwise_ofComments
    (increasing : (comments.map CommentLine.line).Pairwise (· < ·)) :
    (ofComments comments).Pairwise fun block later =>
      ∀ comment ∈ block.comments, ∀ other ∈ later.comments,
        comment.line < other.line :=
  (List.pairwise_flatMap.mp (pairwise_line_flatMap increasing)).2

theorem pairwise_body_lines
    (increasing : (comments.map CommentLine.line).Pairwise (· < ·))
    {block : TagBlock}
    (isBlock : block ∈ ofComments comments) :
    (block.body.lines.map BodyLine.line).Pairwise (· < ·) := by
  have inBlock := (List.pairwise_flatMap.mp
    (pairwise_line_flatMap increasing)).1 block isBlock
  rw [map_line_lines]
  exact List.pairwise_map.mpr inBlock

/-- Findings on the lines of two blocks are in the order of the blocks. -/
theorem pairwise_isOn
    (increasing : (comments.map CommentLine.line).Pairwise (· < ·)) :
    (ofComments comments).Pairwise fun block later =>
      ∀ finding other : Finding, finding.IsOn block → other.IsOn later →
        finding.span.line < other.span.line := by
  refine (pairwise_ofComments increasing).imp ?_
  rintro block later inFront finding other ⟨comment, inBlock, lineEq⟩
    ⟨otherComment, inLater, otherLineEq⟩
  rw [lineEq, otherLineEq]
  exact inFront comment inBlock otherComment inLater

end TagBlock

/-- Where each tag gives one finding at most, and gives it on a line of its
block, the findings are on lines in order. -/
theorem pairwise_line_filterMap
    (increasing : (comments.map CommentLine.line).Pairwise (· < ·))
    {report : Tag → Option Finding}
    (isOn : ∀ block ∈ TagBlock.ofComments comments, ∀ finding,
      report block.tag = some finding → finding.IsOn block) :
    ((Tag.extract comments).filterMap report).Pairwise
      fun finding later => finding.span.line < later.span.line := by
  rw [← TagBlock.map_tag_ofComments, List.filterMap_map, List.pairwise_filterMap]
  refine (TagBlock.pairwise_isOn increasing).imp_of_mem ?_
  intro block later isBlock isLater inFront finding found other otherFound
  exact inFront finding other (isOn block isBlock finding found)
    (isOn later isLater other otherFound)

/-! ## Findings on the lines of their blocks -/

section OnBlock

variable {block : TagBlock}

theorem TagBlock.exists_line_eq
    (isBlock : block ∈ ofComments comments)
    {line : BodyLine}
    (isLine : line ∈ block.body.lines) :
    ∃ comment ∈ block.comments, line.line = comment.line := by
  obtain ⟨comment, inBlock, isEndOf⟩ :=
    (isRead_of_mem_ofLines isBlock).exists_isEndOf isLine
  exact ⟨comment, inBlock, isEndOf.line_eq⟩

/-- The pieces of a text of a tag are on the lines of the tag's block. -/
theorem TagText.IsPartOf.exists_line_eq
    {text : TagText}
    (isPartOf : text.IsPartOf block.body)
    (isBlock : block ∈ TagBlock.ofComments comments)
    {piece : Piece}
    (isPiece : piece ∈ text.pieces) :
    ∃ comment ∈ block.comments, piece.line = comment.line := by
  obtain ⟨cutting, _, rfl⟩ := isPartOf
  obtain ⟨line, isLine, liesOn⟩ := Body.exists_liesOn isPiece
  obtain ⟨comment, inBlock, lineEq⟩ := TagBlock.exists_line_eq isBlock isLine
  exact ⟨comment, inBlock, liesOn.line_eq.trans lineEq⟩

/-- A finding for a tag as a whole stands on the first line of its block. -/
theorem Finding.isOn_ofComment
    (isBlock : block ∈ TagBlock.ofComments comments)
    {comment : CommentLine}
    (isComment : comments[block.tag.lineIndex]? = some comment)
    (rule : Rule)
    (message : String) :
    (Finding.of rule message (Span.ofComment comment)).IsOn block := by
  have isFirst := (TagBlock.mem_ofComments_iff.mp isBlock).1
  rw [TagBlock.tag, Tag.lineIndex_ofBody, isFirst] at isComment
  obtain rfl := Option.some.inj isComment
  exact ⟨block.first, List.mem_cons_self, rfl⟩

namespace Check

/-- The findings for an alternative start at its first byte. -/
theorem exists_isByteAt
    (isBlock : block ∈ TagBlock.ofComments comments)
    {types : TagText}
    (hasTypes : block.tag.types = some types) :
    ∃ position, ∀ alternatives,
      TypeExpr.parseAlternatives types.text.toList = .ok alternatives →
      ∀ alternative ∈ alternatives, ∀ style,
      ∀ finding ∈ alternativeFindings types style alternative,
        block.body.IsByteAt (position + alternative.start) finding.span.line
          finding.span.startColumn := by
  obtain ⟨before, after, chars, typesEq⟩ := TagBlock.exists_cut hasTypes
  refine ⟨byteLength before, ?_⟩
  intro alternatives parsed alternative isAlternative style finding reports
  obtain ⟨raw, standsOn, writes⟩ := exists_raw_of_parsed parsed isAlternative
  rw [alternativeFindings_eq] at reports
  obtain ⟨complaint, _, rfl⟩ := List.mem_map.mp reports
  exact (isPlaced_reported isBlock chars typesEq standsOn writes style
    complaint.1 complaint.2).start

theorem isOn_of_mem_tagTypes
    (isBlock : block ∈ TagBlock.ofComments comments)
    {style : Style}
    {finding : Finding}
    (member : finding ∈ tagTypes style block.tag) :
    finding.IsOn block := by
  rcases mem_tagTypes_cases member with
    ⟨types, error, hasTypes, _, rfl⟩ |
    ⟨types, alternatives, alternative, hasTypes, parsed, isAlternative,
      complaint, complains, rfl⟩
  · have isPartOf := (Tag.areOf_ofBody _ _ _).types types hasTypes
    obtain ⟨piece, isPiece, _, _, place⟩ :=
      types.exists_locateToLineEnd error.offset
    obtain ⟨comment, inBlock, lineEq⟩ := isPartOf.exists_line_eq isBlock isPiece
    refine ⟨comment, inBlock, ?_⟩
    rw [syntaxFinding, place]
    exact lineEq
  · have reports : reported types style alternative complaint.1 complaint.2 ∈
        alternativeFindings types style alternative := by
      rw [alternativeFindings_eq]
      exact List.mem_map_of_mem complains
    obtain ⟨_, isByteAt⟩ := exists_isByteAt isBlock hasTypes
    obtain ⟨earlier, found, later, _, _, split, _, _, _, lineEq, _⟩ :=
      isByteAt alternatives parsed alternative isAlternative style _ reports
    obtain ⟨comment, inBlock, numberEq⟩ :=
      TagBlock.exists_line_eq isBlock (by simp [split] : found ∈ _)
    exact ⟨comment, inBlock, lineEq.trans numberEq⟩

/-- The findings for the types of one tag are in the order of the source. -/
theorem pairwise_tagTypes
    (increasing : (comments.map CommentLine.line).Pairwise (· < ·))
    (isBlock : block ∈ TagBlock.ofComments comments)
    (style : Style) :
    (tagTypes style block.tag).Pairwise fun finding later =>
      finding.span.StartsBy later.span := by
  cases hasTypes : block.tag.types with
  | none =>
      rw [tagTypes, hasTypes]
      exact List.Pairwise.nil
  | some types =>
      cases parsed : TypeExpr.parseAlternatives types.text.toList with
      | error error =>
          have isTyped : block.tag.kind.isTyped = true :=
            Tag.isTyped_of_types hasTypes
          simp only [tagTypes, hasTypes, isTyped, if_true, parsed]
          exact List.pairwise_singleton _ _
      | ok alternatives =>
          rw [tagTypes_of_parsed hasTypes parsed, List.pairwise_flatMap]
          obtain ⟨position, isByteAt⟩ := exists_isByteAt isBlock hasTypes
          have linesInOrder := TagBlock.pairwise_body_lines increasing isBlock
          constructor
          · intro alternative isAlternative
            apply List.pairwise_of_forall_mem_list
            intro finding found other otherFound
            exact Body.IsByteAt.inOrder linesInOrder
              (isByteAt _ parsed alternative isAlternative style _ found)
              (isByteAt _ parsed alternative isAlternative style _ otherFound)
              (Nat.le_refl _)
          · refine (pairwise_starts_of_parsed parsed).imp_of_mem ?_
            intro alternative later isAlternative isLater inFront finding found
              other otherFound
            exact Body.IsByteAt.inOrder linesInOrder
              (isByteAt _ parsed alternative isAlternative style _ found)
              (isByteAt _ parsed later isLater style _ otherFound)
              (Nat.add_le_add_left inFront position)

end Check

end OnBlock

end InOrder

/-! ## The runs of findings -/

theorem Rule.isCollection_iff
    {rule : Rule} :
    rule.isCollection = true ↔
      rule = .collectionType ∨ rule = .collectionStyle := by
  cases rule <;> simp [isCollection]

/-- Findings about the types of tags, in the order of the source. -/
structure AreAboutTypes (findings : List Finding) : Prop where
  rules : ∀ finding ∈ findings, finding.rule = .tagTypeSyntax ∨
    finding.rule = .collectionType ∨ finding.rule = .collectionStyle
  inOrder : findings.Pairwise fun finding later =>
    finding.span.StartsBy later.span

/-- Findings about the positions of types, on one line after the other. -/
structure AreAboutPositions (findings : List Finding) : Prop where
  rules : ∀ finding ∈ findings, finding.rule = .tagTypePosition
  inOrder : findings.Pairwise fun finding later =>
    finding.span.line < later.span.line

/-- A finding says that a parameter has no tag. -/
def Finding.Misses (finding : Finding) (parameter : Parameter) : Prop :=
  finding.rule = .undocumentedArgument ∧
    ∃ name, parameter.name = some name ∧
      finding.message =
        "This method has argument `" ++ name ++ "`, But not documented"

/-- Findings about what tags document.  For a method, those about tags are in
front of those about parameters, and these are in the order of the
parameters. -/
structure AreAboutTags
    (declaration : Declaration)
    (findings : List Finding) : Prop where
  inOrder : findings.Pairwise fun finding later =>
    finding.span.line ≤ later.span.line
  ofOthers : declaration.kind ≠ .method →
    ∀ finding ∈ findings, finding.rule = .meaninglessTag
  ofMethod : declaration.kind = .method →
    ∃ forTags forParameters, findings = forTags ++ forParameters ∧
      (∀ finding ∈ forTags, finding.rule = .incompleteTag ∨
        finding.rule = .unknownParamName) ∧
      List.SublistForall₂ Finding.Misses forParameters declaration.parameters

/-- Findings in the order of the checks, and of the source within each check. -/
def AreInOrder
    (declaration : Declaration)
    (findings : List Finding) : Prop :=
  ∃ ofTypes ofPositions ofTags,
    findings = ofTypes ++ ofPositions ++ ofTags ∧ AreAboutTypes ofTypes ∧
    AreAboutPositions ofPositions ∧ AreAboutTags declaration ofTags

namespace Check

variable {declaration : Declaration}

theorem misses_of_undocumentedFinding?
    {prototype : Prototype}
    {last : CommentLine}
    {documented : List String}
    {parameter : Parameter}
    {finding : Finding}
    (found : undocumentedFinding? prototype last documented parameter =
      some finding) :
    finding.Misses parameter ∧ finding.span.line = last.line := by
  obtain ⟨_, _, behind⟩ := Option.bind_eq_some_iff.mp found
  obtain ⟨name, hasName, guarded⟩ := Option.bind_eq_some_iff.mp behind
  obtain ⟨_, _, given⟩ := Option.bind_eq_some_iff.mp guarded
  obtain rfl := Option.some.inj given
  exact ⟨⟨rfl, name, hasName, rfl⟩, rfl⟩

/-- Parameters are reported in their order. -/
theorem misses_filterMap
    (prototype : Prototype)
    (last : CommentLine)
    (documented : List String)
    (parameters : List Parameter) :
    List.SublistForall₂ Finding.Misses
      (parameters.filterMap (undocumentedFinding? prototype last documented))
      parameters := by
  induction parameters with
  | nil => exact .nil
  | cons parameter rest hypothesis =>
      rw [List.filterMap_cons]
      split
      · exact .cons_right hypothesis
      · rename_i finding found
        exact .cons (misses_of_undocumentedFinding? found).1 hypothesis

theorem misses_undocumentedArguments
    (declaration : Declaration)
    (tags : List Tag)
    (prototype : Prototype) :
    List.SublistForall₂ Finding.Misses
      (undocumentedArguments declaration tags prototype)
      declaration.parameters := by
  unfold undocumentedArguments
  split
  · split
    · exact .nil
    · exact misses_filterMap prototype _ _ declaration.parameters
  · exact .nil

/-- Parameters without tags are reported on the last leading line. -/
theorem exists_last_of_mem_undocumentedArguments
    {tags : List Tag}
    {prototype : Prototype}
    {finding : Finding}
    (member : finding ∈ undocumentedArguments declaration tags prototype) :
    ∃ last, lastLeading? declaration.comments = some last ∧
      finding.span.line = last.line := by
  obtain ⟨last, isLast, _, _, found⟩ :=
    exists_of_mem_undocumentedArguments member
  exact ⟨last, isLast, (misses_of_undocumentedFinding? found).2⟩

section Runs

variable (increasing :
  (declaration.comments.map CommentLine.line).Pairwise (· < ·))

include increasing

theorem areAboutTypes (style : Style) :
    AreAboutTypes
      ((Tag.extract declaration.comments).flatMap (tagTypes style)) := by
  rw [← TagBlock.map_tag_ofComments, List.flatMap_map]
  constructor
  · intro finding member
    obtain ⟨block, _, found⟩ := List.mem_flatMap.mp member
    rcases mem_tagTypes_cases found with
      ⟨_, _, _, _, rfl⟩ | ⟨_, _, _, _, _, _, complaint, complains, rfl⟩
    · exact Or.inl rfl
    · exact Or.inr (Rule.isCollection_iff.mp
        (isCollection_of_mem_complaints complains))
  · rw [List.pairwise_flatMap]
    constructor
    · intro block isBlock
      exact pairwise_tagTypes increasing isBlock style
    · refine (TagBlock.pairwise_isOn increasing).imp_of_mem ?_
      intro block later isBlock isLater inFront finding found other otherFound
      exact Or.inl (inFront finding other (isOn_of_mem_tagTypes isBlock found)
        (isOn_of_mem_tagTypes isLater otherFound))

theorem areAboutPositions :
    AreAboutPositions
      (tagPositions declaration.comments
        (Tag.extract declaration.comments)) := by
  constructor
  · intro finding member
    obtain ⟨_, _, _, _, _, _, rfl⟩ := exists_of_mem_tagPositions member
    rfl
  · apply pairwise_line_filterMap increasing
    intro block isBlock finding found
    obtain ⟨_, _, behind⟩ := Option.bind_eq_some_iff.mp found
    obtain ⟨comment, isComment, given⟩ := Option.bind_eq_some_iff.mp behind
    obtain rfl := Option.some.inj given
    exact Finding.isOn_ofComment isBlock isComment _ _

theorem pairwise_meaninglessTags :
    (meaninglessTags declaration (Tag.extract declaration.comments)).Pairwise
      fun finding later => finding.span.line < later.span.line := by
  unfold meaninglessTags
  split
  · exact List.Pairwise.nil
  · refine List.Pairwise.sublist (List.filter_sublist.filterMap _) ?_
    apply pairwise_line_filterMap increasing
    intro block isBlock finding found
    obtain ⟨comment, isComment, given⟩ := Option.bind_eq_some_iff.mp found
    obtain rfl := Option.some.inj given
    exact Finding.isOn_ofComment isBlock isComment _ _

theorem pairwise_reconciledTags :
    (reconciledTags declaration (Tag.extract declaration.comments)).Pairwise
      fun finding later => finding.span.line < later.span.line := by
  refine List.Pairwise.sublist (List.filter_sublist.filterMap _) ?_
  apply pairwise_line_filterMap increasing
  intro block isBlock finding found
  obtain ⟨comment, isComment, given⟩ := Option.bind_eq_some_iff.mp found
  rcases tagFinding?_cases given with
    ⟨message, _, rfl⟩ | ⟨name, _, _, _, hasName, _, _, _, rfl⟩
  · exact Finding.isOn_ofComment isBlock isComment _ _
  · -- A name may stand on a line that continues the tag.
    have isPartOf := (Tag.areOf_ofBody _ _ _).name name hasName
    exact isPartOf.exists_line_eq isBlock
      (show name.firstPiece ∈ name.pieces from List.mem_cons_self)

theorem pairwise_arguments (prototype : Prototype) :
    (reconciledTags declaration (Tag.extract declaration.comments) ++
      undocumentedArguments declaration (Tag.extract declaration.comments)
        prototype).Pairwise
      fun finding later => finding.span.line ≤ later.span.line := by
  refine List.pairwise_append.mpr ⟨?_, ?_, ?_⟩
  · exact (pairwise_reconciledTags increasing).imp Nat.le_of_lt
  · apply List.pairwise_of_forall_mem_list
    intro finding found other otherFound
    obtain ⟨last, isLast, lineEq⟩ :=
      exists_last_of_mem_undocumentedArguments found
    obtain ⟨otherLast, otherIsLast, otherLineEq⟩ :=
      exists_last_of_mem_undocumentedArguments otherFound
    obtain rfl := Option.some.inj (isLast.symm.trans otherIsLast)
    rw [lineEq, otherLineEq]
  · intro finding found other otherFound
    obtain ⟨comment, inComments, leading, liesOn⟩ :=
      (standsIn_of_mem_reconciledTags found).onLine
    obtain ⟨last, isLast, lineEq⟩ :=
      exists_last_of_mem_undocumentedArguments otherFound
    rw [liesOn.line_eq, lineEq]
    exact line_le_of_lastLeading? increasing isLast inComments leading

theorem areAboutTags_arguments
    (isMethod : declaration.kind = .method)
    (prototype : Prototype) :
    AreAboutTags declaration
      (arguments declaration (Tag.extract declaration.comments) prototype) := by
  unfold arguments
  split
  · exact ⟨List.Pairwise.nil, by simp, fun _ => ⟨[], [], rfl, by simp, .nil⟩⟩
  · refine ⟨pairwise_arguments increasing prototype,
      fun notMethod => absurd isMethod notMethod,
      fun _ => ⟨_, _, rfl, ?_, misses_undocumentedArguments _ _ _⟩⟩
    intro finding member
    obtain ⟨_, _, _, _, _, found⟩ := exists_of_mem_reconciledTags member
    rcases tagFinding?_cases found with
      ⟨_, _, rfl⟩ | ⟨_, _, _, _, _, _, _, _, rfl⟩
    · exact Or.inl rfl
    · exact Or.inr rfl

theorem areAboutTags_meaninglessTags
    (notMethod : declaration.kind ≠ .method) :
    AreAboutTags declaration
      (meaninglessTags declaration (Tag.extract declaration.comments)) := by
  refine ⟨(pairwise_meaninglessTags increasing).imp Nat.le_of_lt, ?_,
    fun isMethod => absurd isMethod notMethod⟩
  intro _ finding member
  obtain ⟨_, _, _, _, _, rfl⟩ := exists_of_mem_meaninglessTags member
  rfl

end Runs

end Check

/-! ## Findings that are chosen -/

section Chosen

variable (settings : Settings)
variable {findings : List Finding}

theorem Settings.chosen_append (left right : List Finding) :
    settings.chosen (left ++ right) =
      settings.chosen left ++ settings.chosen right := by
  rw [chosen, List.filter_append, List.map_append]
  rfl

theorem Settings.exists_of_mem_chosen
    {finding : Finding}
    (member : finding ∈ settings.chosen findings) :
    ∃ original ∈ findings,
      finding =
        { original with severity := settings.severity original.rule } := by
  obtain ⟨original, kept, rfl⟩ := List.mem_map.mp member
  exact ⟨original, (List.mem_filter.mp kept).1, rfl⟩

/-- What is chosen keeps its order, if that is told by places only. -/
theorem Settings.pairwise_chosen
    (inOrder : Span → Span → Prop)
    (pairwise : findings.Pairwise fun finding later =>
      inOrder finding.span later.span) :
    (settings.chosen findings).Pairwise fun finding later =>
      inOrder finding.span later.span :=
  List.pairwise_map.mpr (pairwise.sublist List.filter_sublist)

theorem Settings.misses_chosen
    {parameters : List Parameter}
    (misses : List.SublistForall₂ Finding.Misses findings parameters) :
    List.SublistForall₂ Finding.Misses (settings.chosen findings)
      parameters := by
  induction misses with
  | nil => exact .nil
  | @cons finding parameter rest parameters isMissed _ hypothesis =>
      rw [← List.singleton_append, chosen_append]
      by_cases isEnabled : settings.isEnabled finding.rule = true
      · have kept : settings.chosen [finding] =
            [{ finding with severity := settings.severity finding.rule }] := by
          simp [chosen, isEnabled]
        rw [kept]
        exact .cons isMissed hypothesis
      · have dropped : settings.chosen [finding] = [] := by
          simp [chosen, isEnabled]
        rw [dropped]
        exact .cons_right hypothesis
  | cons_right _ hypothesis => exact .cons_right hypothesis

theorem AreAboutTypes.chosen
    (areAboutTypes : AreAboutTypes findings) :
    AreAboutTypes (settings.chosen findings) where
  rules := by
    intro finding member
    obtain ⟨original, isFinding, rfl⟩ := settings.exists_of_mem_chosen member
    exact areAboutTypes.rules original isFinding
  inOrder := settings.pairwise_chosen Span.StartsBy areAboutTypes.inOrder

theorem AreAboutPositions.chosen
    (areAboutPositions : AreAboutPositions findings) :
    AreAboutPositions (settings.chosen findings) where
  rules := by
    intro finding member
    obtain ⟨original, isFinding, rfl⟩ := settings.exists_of_mem_chosen member
    exact areAboutPositions.rules original isFinding
  inOrder := settings.pairwise_chosen
    (fun span later => span.line < later.line) areAboutPositions.inOrder

theorem AreAboutTags.chosen
    {declaration : Declaration}
    (areAboutTags : AreAboutTags declaration findings) :
    AreAboutTags declaration (settings.chosen findings) where
  inOrder := settings.pairwise_chosen
    (fun span later => span.line ≤ later.line) areAboutTags.inOrder
  ofOthers := by
    intro notMethod finding member
    obtain ⟨original, isFinding, rfl⟩ := settings.exists_of_mem_chosen member
    exact areAboutTags.ofOthers notMethod original isFinding
  ofMethod := by
    intro isMethod
    obtain ⟨forTags, forParameters, rfl, rules, misses⟩ :=
      areAboutTags.ofMethod isMethod
    refine ⟨settings.chosen forTags, settings.chosen forParameters,
      settings.chosen_append _ _, ?_, settings.misses_chosen misses⟩
    intro finding member
    obtain ⟨original, isFinding, rfl⟩ := settings.exists_of_mem_chosen member
    exact rules original isFinding

theorem AreInOrder.chosen
    {declaration : Declaration}
    (areInOrder : AreInOrder declaration findings) :
    AreInOrder declaration (settings.chosen findings) := by
  obtain ⟨ofTypes, ofPositions, ofTags, rfl, types, positions, tags⟩ :=
    areInOrder
  refine ⟨_, _, _, ?_, types.chosen settings, positions.chosen settings,
    tags.chosen settings⟩
  rw [settings.chosen_append, settings.chosen_append]

end Chosen

/-- All findings are in order, whether their rules are enabled or not. -/
theorem Settings.areInOrder_allFindings
    {declaration : Declaration}
    (increasing : (declaration.comments.map CommentLine.line).Pairwise (· < ·))
    (settings : Settings) :
    AreInOrder declaration (settings.allFindings declaration) := by
  refine ⟨_, _, _, rfl, Check.areAboutTypes increasing settings.style,
    Check.areAboutPositions increasing, ?_⟩
  split
  · rename_i isMethod
    exact Check.areAboutTags_arguments increasing isMethod settings.prototype
  · rename_i notMethod
    exact Check.areAboutTags_meaninglessTags increasing notMethod

/-- Whatever is configured, the findings for a declaration are in order if its
comment lines are. -/
theorem check_areInOrder
    {declaration : Declaration}
    (increasing : (declaration.comments.map CommentLine.line).Pairwise (· < ·))
    (config : Config) :
    AreInOrder declaration ((Checker.mk config none).check declaration) :=
  (Settings.areInOrder_allFindings increasing _).chosen _

/-- Types that go on over two lines, types in the wrong place, a name on a line
that continues its tag, and two parameters without a tag. -/
def manyFaults : Declaration where
  kind := .method
  name := "store"
  line := 8
  column := 2
  parameters :=
    [⟨some "z", .required, none⟩, ⟨some "a", .rest, none⟩]
  comments :=
    [⟨2, 2, "# @param [Hash<A>, (B),", true⟩,
      ⟨3, 2, "#   (C)] é", true⟩, ⟨4, 2, "# @return x [D]", true⟩,
      ⟨6, 2, "# @param", true⟩, ⟨7, 2, "# text", true⟩]

/-- Each run has findings here, and the last one goes back to a line in front of
the second one. -/
theorem check_areInOrder_manyFaults :
    (manyFaults.comments.map CommentLine.line).Pairwise (· < ·) ∧
      ((Checker.mk {} none).check manyFaults).map
          (fun finding => (finding.rule, finding.span.line,
            finding.span.startColumn)) =
        [(.collectionType, 2, 12), (.collectionStyle, 2, 21),
          (.collectionStyle, 3, 6), (.tagTypePosition, 4, 2),
          (.unknownParamName, 3, 11), (.incompleteTag, 6, 2),
          (.undocumentedArgument, 7, 2), (.undocumentedArgument, 7, 2)] ∧
      AreInOrder manyFaults ((Checker.mk {} none).check manyFaults) := by
  have increasing :
      (manyFaults.comments.map CommentLine.line).Pairwise (· < ·) := by
    decide
  exact ⟨increasing, by decide +kernel, check_areInOrder increasing {}⟩

end DocLint
