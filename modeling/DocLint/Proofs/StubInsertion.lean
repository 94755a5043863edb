import DocLint.Proofs.FindingOrigins
import DocLint.Proofs.GeneratedTags
import DocLint.Proofs.TagPlaces
import Mathlib.Data.List.DropRight

/-!
# Inserting the suggested tags

A parameter without a tag is reported together with a stub, a comment line that
documents it.  Once all stubs are inserted behind the last leading line, no
parameter is reported any more, and the tags that were there before are reported
as before.
-/

namespace DocLint

open Text

/-! ## Inserting stubs -/

/-- A comment with some lines put behind its last leading line. -/
def insertBehindLeading
    (added comments : List CommentLine) : List CommentLine :=
  comments.rdropWhile (fun comment => !comment.leading) ++ added ++
    comments.rtakeWhile fun comment => !comment.leading

/-- The comment line that a correction inserts below another line, without the
line break and the indentation. -/
def Correction.stub
    (correction : Correction)
    (last : CommentLine)
    (line : Nat) : CommentLine where
  line := line
  column := last.column
  text := String.ofList (trimStart correction.replacement.toList.tail)
  leading := true

/-- The stubs that findings suggest for parameters, in the order of the
findings. -/
def stubs
    (lineNumber : Nat → Nat)
    (last : CommentLine)
    (findings : List Finding) : List CommentLine :=
  ((findings.filter fun finding => finding.rule = .undocumentedArgument).filterMap
    Finding.correction).mapIdx fun index correction =>
      correction.stub last (lineNumber index)

/-- A declaration with the stubs that findings suggest. -/
def Declaration.withStubs
    (declaration : Declaration)
    (lineNumber : Nat → Nat)
    (findings : List Finding) : Declaration :=
  match lastLeading? declaration.comments with
  | none => declaration
  | some last =>
      { declaration with
        comments := insertBehindLeading (stubs lineNumber last findings)
          declaration.comments }

section Lines

variable {comments added : List CommentLine}

theorem insertBehindLeading_nil (comments : List CommentLine) :
    insertBehindLeading [] comments = comments := by
  rw [insertBehindLeading, List.append_nil, List.rdropWhile_append_rtakeWhile]

/-- A leading line keeps its index. -/
theorem getElem?_insertBehindLeading
    {index : Nat}
    {comment : CommentLine}
    (isComment : comments[index]? = some comment)
    (leading : comment.leading = true) :
    (insertBehindLeading added comments)[index]? = some comment := by
  have whole := comments.rdropWhile_append_rtakeWhile
    (p := fun comment => !comment.leading)
  by_cases inFront :
      index < (comments.rdropWhile fun comment => !comment.leading).length
  · rw [← whole, List.getElem?_append_left inFront] at isComment
    rw [insertBehindLeading, List.append_assoc,
      List.getElem?_append_left inFront, isComment]
  · rw [← whole, List.getElem?_append_right (Nat.le_of_not_lt inFront)]
      at isComment
    have trails := List.mem_rtakeWhile_imp (List.mem_of_getElem? isComment)
    exact absurd trails (by simp [leading])

/-- Lines that trail code give no tags. -/
theorem filter_leading_zipIdx_rtakeWhile
    (comments : List CommentLine)
    (start : Nat) :
    ((comments.rtakeWhile fun comment => !comment.leading).zipIdx start).filter
      (fun line => line.1.leading) = [] := by
  apply List.filter_eq_nil_iff.mpr
  rintro ⟨comment, index⟩ member leading
  have trails := List.mem_rtakeWhile_imp (List.fst_mem_of_mem_zipIdx member)
  exact absurd trails (by simpa using leading)

/-- Where each new line starts a tag, the tags that were there before are read
as before, and the new lines are read one by one. -/
theorem Tag.extract_insertBehindLeading
    (leading : ∀ comment ∈ added, comment.leading = true)
    (starts : ∀ comment ∈ added, comment.directive?.isSome = true) :
    extract (insertBehindLeading added comments) =
      extract comments ++
        (added.zipIdx (comments.rdropWhile
          fun comment => !comment.leading).length).flatMap
            fun line => ofLines [line] := by
  let front := comments.rdropWhile fun comment => !comment.leading
  have allLeading : (added.zipIdx front.length).filter
      (fun line => line.1.leading) = added.zipIdx front.length := by
    apply List.filter_eq_self.mpr
    intro line member
    exact leading line.1 (List.fst_mem_of_mem_zipIdx member)
  have allStart : ∀ line ∈ added.zipIdx front.length,
      line.1.directive?.isSome = true :=
    fun line member => starts line.1 (List.fst_mem_of_mem_zipIdx member)
  have before : extract comments =
      ofLines (front.zipIdx.filter fun line => line.1.leading) := by
    have whole := comments.rdropWhile_append_rtakeWhile
      (p := fun comment => !comment.leading)
    rw [extract]
    nth_rewrite 1 [← whole]
    rw [List.zipIdx_append, List.filter_append,
      filter_leading_zipIdx_rtakeWhile, List.append_nil]
  have after : extract (insertBehindLeading added comments) =
      ofLines ((front.zipIdx.filter fun line => line.1.leading) ++
        added.zipIdx front.length) := by
    unfold extract insertBehindLeading
    rw [List.zipIdx_append, List.filter_append,
      filter_leading_zipIdx_rtakeWhile, List.append_nil, List.zipIdx_append,
      List.filter_append, Nat.zero_add, allLeading]
  rw [after, before, ← ofLines_eq_flatMap allStart]
  exact ofLines_append fun line head =>
    allStart line (List.mem_of_head? head)

end Lines

/-! ## Tags of stubs -/

section Stubs

variable {prototype : Prototype}
variable {lineNumber : Nat → Nat}
variable {last : CommentLine}
variable {findings : List Finding}

/-- Every stub comes from a finding for a parameter. -/
theorem exists_of_mem_stubs
    {comment : CommentLine}
    (member : comment ∈ stubs lineNumber last findings) :
    ∃ finding ∈ findings, finding.rule = .undocumentedArgument ∧
      ∃ correction line, finding.correction = some correction ∧
        comment = correction.stub last line := by
  obtain ⟨index, bound, rfl⟩ := List.mem_mapIdx.mp member
  obtain ⟨finding, kept, isCorrection⟩ :=
    List.mem_filterMap.mp (List.getElem_mem bound)
  obtain ⟨isFinding, isRule⟩ := List.mem_filter.mp kept
  exact ⟨finding, isFinding, of_decide_eq_true isRule, _, _, isCorrection, rfl⟩

theorem leading_of_mem_stubs
    {comment : CommentLine}
    (member : comment ∈ stubs lineNumber last findings) :
    comment.leading = true := by
  obtain ⟨_, _, _, _, _, _, rfl⟩ := exists_of_mem_stubs member
  rfl

/-- Every finding for a parameter gives a stub. -/
theorem exists_mem_stubs
    {finding : Finding}
    {correction : Correction}
    (isFinding : finding ∈ findings)
    (isRule : finding.rule = .undocumentedArgument)
    (isCorrection : finding.correction = some correction)
    (lineNumber : Nat → Nat)
    (last : CommentLine) :
    ∃ line, correction.stub last line ∈ stubs lineNumber last findings := by
  have suggested : correction ∈ (findings.filter fun finding =>
      finding.rule = .undocumentedArgument).filterMap Finding.correction :=
    List.mem_filterMap.mpr ⟨finding,
      List.mem_filter.mpr ⟨isFinding, decide_eq_true isRule⟩, isCorrection⟩
  obtain ⟨index, bound, isElement⟩ := List.mem_iff_getElem.mp suggested
  refine ⟨lineNumber index, List.mem_mapIdx.mpr ⟨index, bound, ?_⟩⟩
  rw [isElement]

/-- A suggested stub is the line of a generated tag. -/
theorem Correction.isGenerated_stub
    {correction : Correction}
    {column : Nat}
    {name : String}
    {parameter : Parameter}
    (isWord : IsWord name.toList)
    (replacement : correction.replacement =
      Check.suggestion prototype column name parameter)
    (last : CommentLine)
    (line : Nat) :
    (correction.stub last line).IsGenerated prototype name
      parameter.documentedType := by
  have marked : StartsOutside isBlank ('#' :: ' ' ::
      (prototype.format name parameter.documentedType).toList) :=
    startsOutside_cons (by decide) _
  have noBlanks : ∀ c ∈ ([] : List Char), isBlank c = true := by
    simp
  apply CommentLine.isGenerated_of_text isWord parameter noBlanks
  rw [stub, String.toList_ofList, replacement, Check.toList_suggestion,
    List.tail_cons, List.append_assoc]
  exact dropWhile_append (fun _ => isBlank_of_mem_replicate) marked

end Stubs

/-! ## What documented parameters change -/

namespace Tag.Documents

variable {tag : Tag}
variable {name types : String}

theorem documentsParameter
    (documents : tag.Documents name types) :
    tag.documentsParameter = true := by
  rw [Tag.documentsParameter, documents.directive]
  rfl

/-- A tag that gives types to a parameter is not reported. -/
theorem tagFinding?_eq_none
    (documents : tag.Documents name types)
    {names : List String}
    (known : name ∈ names)
    (comment : CommentLine) :
    Check.tagFinding? names comment tag = none := by
  obtain ⟨nameText, hasName, rfl⟩ := Option.map_eq_some_iff.mp documents.name
  obtain ⟨typesText, hasTypes, _⟩ := Option.map_eq_some_iff.mp documents.types
  simp [Check.tagFinding?, hasName, hasTypes, known]

end Tag.Documents

namespace Check

variable {declaration completed : Declaration}
variable {tags added : List Tag}
variable {prototype : Prototype}

theorem mem_documentedNames
    {name : String} :
    name ∈ documentedNames tags ↔
      ∃ tag ∈ tags, tag.documentsParameter = true ∧
        tag.name.map TagText.text = some name := by
  simp only [documentedNames, List.mem_map, List.mem_filterMap,
    List.mem_filter, Option.map_eq_some_iff]
  constructor
  · rintro ⟨text, ⟨tag, ⟨isTag, documents⟩, hasName⟩, rfl⟩
    exact ⟨tag, isTag, documents, text, hasName, rfl⟩
  · rintro ⟨tag, isTag, documents, text, hasName, rfl⟩
    exact ⟨text, ⟨tag, ⟨isTag, documents⟩, hasName⟩, rfl⟩

/-- Tags for parameters of the method add nothing to what is reported for
tags. -/
theorem reconciledTags_append_of_documents
    (documents : ∀ tag ∈ added,
      ∃ name ∈ declaration.parameterNames, ∃ types, tag.Documents name types) :
    reconciledTags declaration (tags ++ added) =
      reconciledTags declaration tags := by
  have nothing : reconciledTags declaration added = [] := by
    apply List.eq_nil_iff_forall_not_mem.mpr
    intro finding member
    obtain ⟨tag, isTag, comment, _, _, found⟩ :=
      exists_of_mem_reconciledTags member
    obtain ⟨name, known, types, tagDocuments⟩ := documents tag isTag
    rw [tagDocuments.tagFinding?_eq_none known] at found
    exact absurd found (by simp)
  rw [reconciledTags_append, nothing, List.append_nil]

/-- What is reported for tags depends on the names of the parameters and on the
lines where the tags start. -/
theorem reconciledTags_congr
    (names : completed.parameterNames = declaration.parameterNames)
    (lines : ∀ tag ∈ tags, completed.comments[tag.lineIndex]? =
      declaration.comments[tag.lineIndex]?) :
    reconciledTags completed tags = reconciledTags declaration tags := by
  unfold reconciledTags
  apply List.filterMap_congr
  intro tag member
  rw [lines tag (List.mem_filter.mp member).1, names]

/-- No parameter is reported if all have their tags. -/
theorem undocumentedArguments_eq_nil
    (documented : ∀ parameter ∈ declaration.parameters,
      parameter.needsDocumentation = true →
      ∀ name, parameter.name = some name → name ∈ documentedNames tags) :
    undocumentedArguments declaration tags prototype = [] := by
  apply List.eq_nil_iff_forall_not_mem.mpr
  intro finding member
  obtain ⟨_, _, parameter, isParameter, found⟩ :=
    exists_of_mem_undocumentedArguments member
  obtain ⟨name, _, needed, hasName, unknown, _⟩ :=
    exists_of_undocumentedFinding? found
  exact unknown (documented parameter isParameter needed name hasName)

/-- Once some parameter is reported, all that have no tag are. -/
theorem undocumentedArguments_eq_filterMap
    (reported : undocumentedArguments declaration tags prototype ≠ []) :
    ∃ last, lastLeading? declaration.comments = some last ∧
      undocumentedArguments declaration tags prototype =
        declaration.parameters.filterMap
          (undocumentedFinding? prototype last (documentedNames tags)) := by
  unfold undocumentedArguments at reported ⊢
  split
  · rename_i sought
    rw [if_pos sought] at reported
    split at reported
    · exact absurd rfl reported
    · rename_i last isLast
      exact ⟨last, isLast, rfl⟩
  · rename_i notSought
    exact absurd (if_neg notSought) reported

/-- A parameter that needs a tag and has none is reported, with a tag for it. -/
theorem exists_undocumentedFinding?
    {parameter : Parameter}
    {name : String}
    {documented : List String}
    (needed : parameter.needsDocumentation = true)
    (hasName : parameter.name = some name)
    (unknown : name ∉ documented)
    (prototype : Prototype)
    (last : CommentLine) :
    ∃ finding correction,
      undocumentedFinding? prototype last documented parameter =
        some finding ∧
      finding.correction = some correction ∧
      correction.replacement =
        suggestion prototype last.column name parameter := by
  have isMissing : (!documented.contains name) = true := by
    simpa using unknown
  have isSome : (undocumentedFinding? prototype last documented
      parameter).isSome = true := by
    unfold undocumentedFinding?
    rw [guard_eq_some_iff.mpr needed, hasName]
    dsimp only [Option.bind_eq_bind, Option.bind_some]
    rw [guard_eq_some_iff.mpr isMissing]
    rfl
  obtain ⟨finding, found⟩ := Option.isSome_iff_exists.mp isSome
  obtain ⟨other, _, _, hasOther, _, rfl⟩ := exists_of_undocumentedFinding? found
  obtain rfl : name = other := Option.some.inj (hasName.symm.trans hasOther)
  exact ⟨_, _, found, rfl, rfl⟩

/-- What is left without the findings for parameters. -/
theorem filter_reconciledTags_append
    (declaration : Declaration)
    (tags : List Tag)
    (prototype : Prototype) :
    (reconciledTags declaration tags ++
      undocumentedArguments declaration tags prototype).filter
        (fun finding => finding.rule ≠ .undocumentedArgument) =
      reconciledTags declaration tags := by
  have kept : (reconciledTags declaration tags).filter
      (fun finding => finding.rule ≠ .undocumentedArgument) =
        reconciledTags declaration tags :=
    List.filter_eq_self.mpr fun finding member =>
      decide_eq_true (rule_ne_of_mem_reconciledTags member)
  have dropped : (undocumentedArguments declaration tags prototype).filter
      (fun finding => finding.rule ≠ .undocumentedArgument) = [] :=
    List.filter_eq_nil_iff.mpr fun finding member isOther =>
      of_decide_eq_true isOther (rule_of_mem_undocumentedArguments member)
  rw [List.filter_append, kept, dropped, List.append_nil]

end Check

/-! ## The completed declaration -/

section Completed

variable {declaration : Declaration}
variable {prototype : Prototype}
variable {lineNumber : Nat → Nat}
variable {findings : List Finding}
variable {last : CommentLine}

/-- Without a finding for a parameter there is nothing to insert. -/
theorem Declaration.withStubs_eq_self
    (unreported : ∀ finding ∈ findings,
      finding.rule ≠ .undocumentedArgument) :
    declaration.withStubs lineNumber findings = declaration := by
  have noFinding : (findings.filter fun finding =>
      finding.rule = .undocumentedArgument) = [] :=
    List.filter_eq_nil_iff.mpr fun finding member isRule =>
      unreported finding member (of_decide_eq_true isRule)
  unfold withStubs
  split
  · rfl
  · rw [stubs, noFinding, List.filterMap_nil, List.mapIdx_nil,
      insertBehindLeading_nil]

/-- The stubs for a method are lines of tags for its parameters. -/
theorem exists_isGenerated_of_mem_stubs
    {tags : List Tag}
    (areWords : ∀ name ∈ declaration.parameterNames, IsWord name.toList)
    {comment : CommentLine}
    (member : comment ∈ stubs lineNumber last
      (Check.arguments declaration tags prototype)) :
    ∃ name ∈ declaration.parameterNames, ∃ types,
      comment.IsGenerated prototype name types := by
  obtain ⟨finding, isFinding, isRule, correction, line, isCorrection, rfl⟩ :=
    exists_of_mem_stubs member
  obtain ⟨_, _, parameter, isParameter, found⟩ :=
    Check.exists_of_mem_undocumentedArguments
      (Check.mem_undocumentedArguments_of_mem_arguments isFinding isRule)
  obtain ⟨name, _, _, hasName, _, rfl⟩ :=
    Check.exists_of_undocumentedFinding? found
  have known : name ∈ declaration.parameterNames :=
    List.mem_filterMap.mpr ⟨parameter, isParameter, hasName⟩
  obtain rfl := Option.some.inj isCorrection
  exact ⟨name, known, parameter.documentedType,
    Correction.isGenerated_stub (areWords name known) rfl _ line⟩

/-- What inserted stubs add to the tags of a method: each new tag is for one of
its parameters, and each stub has its tag. -/
theorem exists_extract_insertBehindLeading
    {added comments : List CommentLine}
    {names : List String}
    (leading : ∀ comment ∈ added, comment.leading = true)
    (generated : ∀ comment ∈ added, ∃ name ∈ names, ∃ types,
      comment.IsGenerated prototype name types) :
    ∃ tags, Tag.extract (insertBehindLeading added comments) =
        Tag.extract comments ++ tags ∧
      (∀ tag ∈ tags, ∃ name ∈ names, ∃ types, tag.Documents name types) ∧
      ∀ comment ∈ added, ∀ name types,
        comment.IsGenerated prototype name types →
        ∃ tag ∈ tags, tag.Documents name types := by
  have starts : ∀ comment ∈ added, comment.directive?.isSome = true := by
    intro comment member
    obtain ⟨_, _, _, isGenerated⟩ := generated comment member
    rw [isGenerated.directive?_eq]
    rfl
  refine ⟨_, Tag.extract_insertBehindLeading leading starts, ?_, ?_⟩
  · intro tag member
    obtain ⟨⟨comment, index⟩, isLine, read⟩ := List.mem_flatMap.mp member
    obtain ⟨name, known, types, isGenerated⟩ :=
      generated comment (List.fst_mem_of_mem_zipIdx isLine)
    obtain ⟨only, ofLine, documents⟩ :=
      Tag.exists_ofLines_of_isGenerated isGenerated index
    rw [ofLine, List.mem_singleton] at read
    exact ⟨name, known, types, read ▸ documents⟩
  · intro comment member name types isGenerated
    obtain ⟨index, isComment⟩ := List.mem_iff_getElem?.mp member
    obtain ⟨tag, ofLine, documents⟩ :=
      Tag.exists_ofLines_of_isGenerated isGenerated
        ((comments.rdropWhile fun comment => !comment.leading).length + index)
    refine ⟨tag, List.mem_flatMap.mpr ⟨_,
      List.mk_add_mem_zipIdx_iff_getElem?.mpr isComment, ?_⟩, documents⟩
    rw [ofLine, List.mem_singleton]

/-- Lines with a tag for every parameter leave what is reported for the other
tags. -/
theorem arguments_insertBehindLeading
    {lines : List CommentLine}
    {added : List Tag}
    (isMethod : declaration.kind = .method)
    (hasParameters : declaration.parameters ≠ [])
    (noOverload : ∀ tag ∈ Tag.extract declaration.comments,
      tag.kind ≠ .overload)
    (extracted : Tag.extract (insertBehindLeading lines declaration.comments) =
      Tag.extract declaration.comments ++ added)
    (known : ∀ tag ∈ added,
      ∃ name ∈ declaration.parameterNames, ∃ types, tag.Documents name types)
    (documented : ∀ parameter ∈ declaration.parameters,
      parameter.needsDocumentation = true →
      ∀ name, parameter.name = some name →
        name ∈ Check.documentedNames
          (Tag.extract declaration.comments ++ added)) :
    Check.arguments
        { declaration with
          comments := insertBehindLeading lines declaration.comments }
        (Tag.extract (insertBehindLeading lines declaration.comments))
        prototype =
      Check.reconciledTags declaration (Tag.extract declaration.comments) := by
  have stillNoOverload :
      ∀ tag ∈ Tag.extract declaration.comments ++ added,
        tag.kind ≠ .overload := by
    intro tag member
    rcases List.mem_append.mp member with isTag | isAdded
    · exact noOverload tag isTag
    · obtain ⟨_, _, _, documents⟩ := known tag isAdded
      rw [documents.kind]
      decide
  let tags := Tag.extract declaration.comments
  let completed : Declaration :=
    { declaration with
      comments := insertBehindLeading lines declaration.comments }
  have sameLines : ∀ tag ∈ tags, completed.comments[tag.lineIndex]? =
      declaration.comments[tag.lineIndex]? := by
    intro tag isTag
    obtain ⟨comment, _, isComment, leading⟩ := Tag.exists_comment isTag
    rw [isComment]
    exact getElem?_insertBehindLeading isComment leading
  have noneMissing : Check.undocumentedArguments completed (tags ++ added)
      prototype = [] :=
    Check.undocumentedArguments_eq_nil documented
  calc Check.arguments completed (Tag.extract completed.comments) prototype
    _ = Check.arguments completed (tags ++ added) prototype := by
        rw [show Tag.extract completed.comments = tags ++ added from extracted]
    _ = Check.reconciledTags completed (tags ++ added) ++
          Check.undocumentedArguments completed (tags ++ added) prototype :=
        Check.arguments_eq_append (show completed.kind = .method from isMethod)
          hasParameters stillNoOverload _
    _ = Check.reconciledTags completed (tags ++ added) := by
        rw [noneMissing, List.append_nil]
    _ = Check.reconciledTags completed tags :=
        Check.reconciledTags_append_of_documents known
    _ = Check.reconciledTags declaration tags :=
        Check.reconciledTags_congr rfl sameLines

/-- The stubs of a method give every parameter that needs one its tag. -/
theorem mem_documentedNames_of_stubs
    {tags added : List Tag}
    (areWords : ∀ name ∈ declaration.parameterNames, IsWord name.toList)
    (isMethod : declaration.kind = .method)
    (hasParameters : declaration.parameters ≠ [])
    (noOverload : ∀ tag ∈ tags, tag.kind ≠ .overload)
    (reported : Check.undocumentedArguments declaration tags prototype ≠ [])
    (tagged : ∀ comment ∈ stubs lineNumber last
        (Check.arguments declaration tags prototype),
      ∀ name types, comment.IsGenerated prototype name types →
        ∃ tag ∈ added, tag.Documents name types)
    {parameter : Parameter}
    {name : String}
    (isParameter : parameter ∈ declaration.parameters)
    (needed : parameter.needsDocumentation = true)
    (hasName : parameter.name = some name) :
    name ∈ Check.documentedNames (tags ++ added) := by
  by_cases documented : name ∈ Check.documentedNames tags
  · obtain ⟨tag, isTag, documents⟩ := Check.mem_documentedNames.mp documented
    exact Check.mem_documentedNames.mpr
      ⟨tag, List.mem_append_left _ isTag, documents⟩
  · obtain ⟨behind, _, findingsEq⟩ :=
      Check.undocumentedArguments_eq_filterMap reported
    obtain ⟨finding, correction, found, isCorrection, replacement⟩ :=
      Check.exists_undocumentedFinding? needed hasName documented prototype
        behind
    have forParameter : finding ∈
        Check.undocumentedArguments declaration tags prototype := by
      rw [findingsEq]
      exact List.mem_filterMap.mpr ⟨parameter, isParameter, found⟩
    have isFinding : finding ∈ Check.arguments declaration tags prototype := by
      rw [Check.arguments_eq_append isMethod hasParameters noOverload]
      exact List.mem_append_right _ forParameter
    obtain ⟨line, isStub⟩ := exists_mem_stubs isFinding
      (Check.rule_of_mem_undocumentedArguments forParameter) isCorrection
      lineNumber last
    have known : name ∈ declaration.parameterNames :=
      List.mem_filterMap.mpr ⟨parameter, isParameter, hasName⟩
    obtain ⟨tag, isTag, documents⟩ := tagged _ isStub name _
      (Correction.isGenerated_stub (areWords name known) replacement last line)
    exact Check.mem_documentedNames.mpr ⟨tag, List.mem_append_right _ isTag,
      documents.documentsParameter, documents.name⟩

/-- Once the suggested stubs are inserted, no parameter of a method is reported,
and what was reported for its tags is reported again, for either layout of the
stubs and whatever their line numbers. -/
theorem arguments_withStubs
    (declaration : Declaration)
    (areWords : ∀ name ∈ declaration.parameterNames, IsWord name.toList)
    (prototype : Prototype)
    (lineNumber : Nat → Nat) :
    let findings := Check.arguments declaration
      (Tag.extract declaration.comments) prototype
    let completed := declaration.withStubs lineNumber findings
    Check.arguments completed (Tag.extract completed.comments) prototype =
      findings.filter fun finding =>
        finding.rule ≠ .undocumentedArgument := by
  intro findings completed
  by_cases unreported : ∀ finding ∈ findings,
      finding.rule ≠ .undocumentedArgument
  · -- Nothing is inserted, also where a method is left alone.
    have same : completed = declaration :=
      Declaration.withStubs_eq_self unreported
    have allKept : (findings.filter fun finding =>
        finding.rule ≠ .undocumentedArgument) = findings :=
      List.filter_eq_self.mpr fun finding member =>
        decide_eq_true (unreported finding member)
    rw [same, allKept]
  · -- One reported parameter tells that the method is checked and that all
    -- parameters without a tag are reported.
    push Not at unreported
    obtain ⟨finding, isFinding, isRule⟩ := unreported
    obtain ⟨isMethod, hasParameters, noOverload⟩ :=
      Check.isMethod_of_mem_arguments isFinding
    have forParameter :=
      Check.mem_undocumentedArguments_of_mem_arguments isFinding isRule
    have reported := List.ne_nil_of_mem forParameter
    obtain ⟨last, isLast, _⟩ :=
      Check.exists_of_mem_undocumentedArguments forParameter
    have completedEq : completed =
        { declaration with
          comments := insertBehindLeading (stubs lineNumber last findings)
            declaration.comments } := by
      simp only [completed, Declaration.withStubs, isLast]
    have leading : ∀ comment ∈ stubs lineNumber last findings,
        comment.leading = true :=
      fun comment member => leading_of_mem_stubs member
    have generated : ∀ comment ∈ stubs lineNumber last findings,
        ∃ name ∈ declaration.parameterNames, ∃ types,
          comment.IsGenerated prototype name types :=
      fun comment member => exists_isGenerated_of_mem_stubs areWords member
    obtain ⟨added, extracted, known, tagged⟩ :=
      exists_extract_insertBehindLeading leading generated
    have documented : ∀ parameter ∈ declaration.parameters,
        parameter.needsDocumentation = true →
        ∀ name, parameter.name = some name →
          name ∈ Check.documentedNames
            (Tag.extract declaration.comments ++ added) :=
      fun parameter isParameter needed name hasName =>
        mem_documentedNames_of_stubs areWords isMethod hasParameters noOverload
          reported tagged isParameter needed hasName
    have findingsEq := Check.arguments_eq_append isMethod hasParameters
      noOverload prototype
    rw [completedEq, arguments_insertBehindLeading isMethod hasParameters
      noOverload extracted known documented]
    simp only [findings]
    rw [findingsEq, Check.filter_reconciledTags_append]

end Completed

/-! ## A method with several stubs -/

/-- A method whose last tag goes on over two lines, in front of a line that
trails code.  One of its tags has no types. -/
def partlyDocumented : Declaration where
  kind := .method
  name := "fetch"
  line := 8
  column := 2
  parameters :=
    [⟨some "key", .required, none⟩, ⟨some "clé", .optional, some .range⟩,
      ⟨some "rest", .rest, none⟩, ⟨none, .forward, none⟩,
      ⟨some "_all", .keywordRest, none⟩, ⟨some "found", .block, none⟩]
  comments :=
    [⟨3, 2, "# @param key", true⟩, ⟨4, 2, "# @option key [Symbol] :deep", true⟩,
      ⟨5, 2, "#   how deep", true⟩, ⟨6, 20, "# trails", false⟩]

/-- Three stubs are inserted; the tag without types is still reported. -/
theorem arguments_withStubs_three_stubs :
    let findings := Check.arguments partlyDocumented
      (Tag.extract partlyDocumented.comments) .nameFirst
    let completed := partlyDocumented.withStubs (· + 6) findings
    (∀ name ∈ partlyDocumented.parameterNames, IsWord name.toList) ∧
      findings.map Finding.rule =
        [.incompleteTag, .undocumentedArgument, .undocumentedArgument,
          .undocumentedArgument] ∧
      completed.comments.drop 3 =
        [⟨6, 2, "# @param clé [Range[Object]]", true⟩,
          ⟨7, 2, "# @param rest [Array<Object>]", true⟩,
          ⟨8, 2, "# @param _all [Hash\x7bSymbol => Object\x7d]", true⟩,
          ⟨6, 20, "# trails", false⟩] ∧
      Check.arguments completed (Tag.extract completed.comments) .nameFirst =
        findings.filter fun finding =>
          finding.rule ≠ .undocumentedArgument := by
  have areWords :
      ∀ name ∈ partlyDocumented.parameterNames, IsWord name.toList := by
    decide +kernel
  exact ⟨areWords, by decide +kernel, by decide +kernel,
    arguments_withStubs partlyDocumented areWords .nameFirst (· + 6)⟩

end DocLint
