import DocLint.Proofs.CorrectedNodes
import DocLint.Proofs.TypeReports

/-!
# Reports on written and corrected types

A report on a text of types suggests two texts: the types written in a style,
and the types corrected where names stand on the wrong brackets.  Writing in a
style changes neither which nodes are mismatches nor how they are corrected, so
the report on the written text says the same again; and the report on the
corrected text has nothing left to say.
-/

namespace DocLint

open Text

namespace TypeExpr

/-! ## Mismatches in a style -/

theorem inStyleOfList_eq (style : Style) (types : List TypeExpr) :
    inStyleOfList style types = types.map (inStyle style) := by
  induction types with
  | nil => rfl
  | cons type rest hypothesis =>
      rw [inStyleOfList, hypothesis, List.map_cons]

theorem children_inStyle (style : Style) (type : TypeExpr) :
    (type.inStyle style).children = type.children.map (inStyle style) := by
  cases type with
  | simple name => rfl
  | generic name arguments => rw [inStyle, children, inStyleOfList_eq, children]
  | tuple name elements => rw [inStyle, children, inStyleOfList_eq, children]
  | mapping name keys values =>
      rw [inStyle, children, inStyleOfList_eq, inStyleOfList_eq, children,
        List.map_append]

theorem nameOf_arrayName_hashName (style : Style) :
    style.nameOf arrayName hashName = hashName := by
  cases style <;> decide

theorem nameOf_hashName_arrayName (style : Style) :
    style.nameOf hashName arrayName = arrayName := by
  cases style <;> decide

/-- No style puts a reserved name on the wrong brackets or takes one off
them. -/
theorem mismatch?_inStyle (style : Style) (type : TypeExpr) :
    (type.inStyle style).mismatch? = type.mismatch? := by
  cases type with
  | simple name => rfl
  | generic name arguments =>
      by_cases isHash : name = hashName
      · simp [inStyle, mismatch?, isHash, nameOf_arrayName_hashName,
          inStyleOfList_eq]
      · simp [inStyle, mismatch?, isHash, nameOf_arrayName_ne isHash style]
  | tuple name elements =>
      by_cases isHash : name = hashName
      · simp [inStyle, mismatch?, isHash, nameOf_arrayName_hashName,
          inStyleOfList_eq]
      · simp [inStyle, mismatch?, isHash, nameOf_arrayName_ne isHash style]
  | mapping name keys values =>
      by_cases isArray : name = arrayName
      · simp [inStyle, mismatch?, isArray, nameOf_hashName_arrayName]
      · simp [inStyle, mismatch?, isArray, nameOf_hashName_ne isArray style]

theorem map_fst_mismatches (type : TypeExpr) :
    type.mismatches.map Prod.fst = type.nodes.filterMap mismatch? := by
  rw [mismatches_eq]
  induction type.nodes with
  | nil => rfl
  | cons node rest hypothesis =>
      rw [List.flatMap_cons, List.map_append, hypothesis, List.filterMap_cons,
        ownMismatch]
      cases node.mismatch? <;> rfl

/-- A style keeps the mismatches of an expression, only the names in them
change. -/
theorem map_fst_mismatches_inStyle (style : Style) (type : TypeExpr) :
    (type.inStyle style).mismatches.map Prod.fst =
      type.mismatches.map Prod.fst := by
  rw [map_fst_mismatches, map_fst_mismatches,
    nodes_of_children (children_inStyle style), List.filterMap_map]
  exact List.filterMap_congr fun node _ => mismatch?_inStyle style node

/-! ## Corrections in a style -/

section Roots

variable {style : Style}
variable {left right : List TypeExpr}

theorem length_eq_of_inStyleOfList
    (same : inStyleOfList style left = inStyleOfList style right) :
    left.length = right.length := by
  simpa [inStyleOfList_eq] using congrArg List.length same

/-- The hash of a pair is decided by how its parts are written. -/
theorem inStyle_pair
    {firstKey firstValue secondKey secondValue : TypeExpr}
    (same : inStyleOfList style [firstKey, firstValue] =
      inStyleOfList style [secondKey, secondValue]) :
    (mapping hashName [firstKey] [firstValue]).inStyle style =
      (mapping hashName [secondKey] [secondValue]).inStyle style := by
  simp only [inStyleOfList, List.cons.injEq, and_true] at same
  simp only [inStyle, inStyleOfList, same]

theorem inStyle_correctRoot_angles
    (same : inStyleOfList style left = inStyleOfList style right) :
    (generic hashName left).correctRoot.inStyle style =
      (generic hashName right).correctRoot.inStyle style := by
  have lengths := length_eq_of_inStyleOfList same
  by_cases pair : right.length = 2
  · obtain ⟨_, _, rfl⟩ := List.length_eq_two.mp pair
    obtain ⟨_, _, rfl⟩ := List.length_eq_two.mp (lengths.trans pair)
    exact inStyle_pair same
  · rw [correctRoot_angles pair, correctRoot_angles (lengths ▸ pair), inStyle,
      inStyle, same]

theorem inStyle_correctRoot_parens
    (same : inStyleOfList style left = inStyleOfList style right) :
    (tuple hashName left).correctRoot.inStyle style =
      (tuple hashName right).correctRoot.inStyle style := by
  have lengths := length_eq_of_inStyleOfList same
  by_cases pair : right.length = 2
  · obtain ⟨_, _, rfl⟩ := List.length_eq_two.mp pair
    obtain ⟨_, _, rfl⟩ := List.length_eq_two.mp (lengths.trans pair)
    exact inStyle_pair same
  · rw [correctRoot_parens pair, correctRoot_parens (lengths ▸ pair), inStyle,
      inStyle, same]

end Roots

/-- How a root is corrected is decided by its written form. -/
theorem inStyle_correctRoot_congr
    {style : Style}
    {left right : TypeExpr}
    (same : left.inStyle style = right.inStyle style) :
    left.correctRoot.inStyle style = right.correctRoot.inStyle style := by
  have mismatches : left.mismatch? = right.mismatch? := by
    rw [← mismatch?_inStyle style left, same, mismatch?_inStyle]
  by_cases misnamed : right.IsMisnamed
  · -- Both roots have the same reserved name on the same brackets.
    have leftMisnamed : left.IsMisnamed := by
      by_contra wellNamed
      rw [mismatch?_eq_none_iff.mpr wellNamed] at mismatches
      exact mismatch?_eq_none_iff.mp mismatches.symm misnamed
    cases left <;> cases right <;>
      simp only [inStyle, generic.injEq, tuple.injEq, mapping.injEq,
        reduceCtorEq] at same
    case simple.simple => exact absurd misnamed (not_isMisnamed_simple _)
    case generic.generic =>
      obtain rfl := isMisnamed_generic_iff.mp leftMisnamed
      obtain rfl := isMisnamed_generic_iff.mp misnamed
      exact inStyle_correctRoot_angles same.2
    case tuple.tuple =>
      obtain rfl := isMisnamed_tuple_iff.mp leftMisnamed
      obtain rfl := isMisnamed_tuple_iff.mp misnamed
      exact inStyle_correctRoot_parens same.2
    case mapping.mapping =>
      obtain rfl := isMisnamed_mapping_iff.mp leftMisnamed
      obtain rfl := isMisnamed_mapping_iff.mp misnamed
      have renamed (keys values : List TypeExpr) :
          (mapping arrayName keys values).correctRoot =
            mapping hashName keys values := rfl
      rw [renamed, renamed, inStyle, inStyle, same.2.1, same.2.2]
  · have kept := mismatch?_eq_none_iff.mpr misnamed
    rw [correctRoot_of_none kept, correctRoot_of_none (mismatches.trans kept),
      same]

mutual

/-- Whether a style is put on before the correction or only behind it, the
result is written alike. -/
theorem inStyle_correct_inStyle
    (style : Style) :
    (type : TypeExpr) →
    (type.inStyle style).correct.inStyle style = type.correct.inStyle style
  | simple _ => rfl
  | generic name arguments => by
      rw [inStyle, correct_generic, correct_generic]
      apply inStyle_correctRoot_congr
      rw [inStyle, inStyle, nameOf_nameOf,
        inStyleOfList_correctAll_inStyleOfList style arguments]
  | tuple name elements => by
      rw [inStyle, correct_tuple, correct_tuple]
      apply inStyle_correctRoot_congr
      rw [inStyle, inStyle, nameOf_nameOf,
        inStyleOfList_correctAll_inStyleOfList style elements]
  | mapping name keys values => by
      rw [inStyle, correct_mapping, correct_mapping]
      apply inStyle_correctRoot_congr
      rw [inStyle, inStyle, nameOf_nameOf,
        inStyleOfList_correctAll_inStyleOfList style keys,
        inStyleOfList_correctAll_inStyleOfList style values]

theorem inStyleOfList_correctAll_inStyleOfList
    (style : Style) :
    (types : List TypeExpr) →
    inStyleOfList style (correctAll (inStyleOfList style types)) =
      inStyleOfList style (correctAll types)
  | [] => rfl
  | type :: rest => by
      rw [inStyleOfList, correctAll_cons, correctAll_cons, inStyleOfList,
        inStyleOfList, inStyle_correct_inStyle style type,
        inStyleOfList_correctAll_inStyleOfList style rest]

end

/-! ## Types that can be read -/

/-- Types that can be written such that they are read again. -/
structure AreReadable (types : List TypeExpr) : Prop where
  wellFormed : AreWellFormed types
  bound : nestingOfList types ≤ maxNesting

theorem areReadable_of_parse
    {text : List Char}
    {types : List TypeExpr}
    (parsed : parse text = .ok types) :
    AreReadable types := by
  by_cases blanks : ∀ c ∈ text, isBlank c = true
  · rw [parse_of_blanks blanks] at parsed
    obtain rfl := Except.ok.inj parsed
    exact ⟨trivial, Nat.zero_le _⟩
  · obtain ⟨tokens, tokensAt, isList, bound⟩ :=
      exists_isList_of_parse_eq_ok blanks parsed
    refine ⟨(areWellFormed_of_isList isList fun name member => ?_).2, bound⟩
    obtain ⟨token, tokenMember, kindEq⟩ := List.mem_map.mp member
    exact tokensAt.isName_of_mem tokenMember kindEq

namespace AreReadable

variable {types : List TypeExpr}

theorem corrected
    (readable : AreReadable types) :
    AreReadable (correctAll types) where
  wellFormed := areWellFormed_correctAll types readable.wellFormed
  bound := nestingOfList_correctAll types ▸ readable.bound

theorem parse_written
    (readable : AreReadable types)
    (style : Style) :
    parse (renderList style types).toList =
      .ok (inStyleOfList style types) := by
  rw [renderList, String.toList_ofList]
  by_cases empty : types = []
  · subst empty
    exact parse_of_blanks (by simp [charsOfList])
  · obtain ⟨_, ⟨tokens, tokensAt, rfl⟩, isList⟩ :=
      charsOfList_spells style types empty readable.wellFormed
    exact parse_of_isList tokensAt isList
      (nestingOfList_inStyleOfList style types ▸ readable.bound)

end AreReadable

/-- Types are written alike if they are the same in the style. -/
theorem renderList_congr
    {style : Style}
    {left right : List TypeExpr}
    (same : inStyleOfList style left = inStyleOfList style right) :
    renderList style left = renderList style right := by
  rw [renderList, renderList, ← charsOfList_inStyleOfList style left, same,
    charsOfList_inStyleOfList]

theorem mismatchMessages_inStyleOfList (style : Style) (types : List TypeExpr) :
    mismatchMessages (inStyleOfList style types) = mismatchMessages types := by
  have messages (type : TypeExpr) :
      (type.mismatches.map fun found => found.1.message) =
        (type.mismatches.map Prod.fst).map Mismatch.message := by
    rw [List.map_map]
    rfl
  simp only [mismatchMessages, inStyleOfList_eq, List.map_flatMap,
    List.flatMap_map, messages, map_fst_mismatches_inStyle]

theorem mismatchMessages_correctAll (types : List TypeExpr) :
    mismatchMessages (correctAll types) = [] := by
  rw [mismatchMessages, ← mismatchesOfList_eq, mismatchesOfList_correctAll]
  rfl

end TypeExpr

/-! ## The reports on both texts -/

namespace TypeReport

open TypeExpr

/-- The report on the written text of types tells what the report on any text of
the same types tells. -/
theorem of_written
    {input : String}
    {types : List TypeExpr}
    (read : parse input.toList = .ok types)
    (style : Style) :
    (of (renderList style types) style).error = none ∧
      (of (renderList style types) style).rendered =
        some (renderList style types) ∧
      (of (renderList style types) style).mismatches =
        (of input style).mismatches ∧
      (of (renderList style types) style).corrected =
        (of input style).corrected := by
  have again := (areReadable_of_parse read).parse_written style
  have written : renderList style (inStyleOfList style types) =
      renderList style types := by
    rw [renderList, charsOfList_inStyleOfList, renderList]
  have corrected :
      renderList style ((inStyleOfList style types).map correct) =
        renderList style (types.map correct) := by
    rw [← correctAll_eq, ← correctAll_eq]
    exact renderList_congr (inStyleOfList_correctAll_inStyleOfList style types)
  refine ⟨error_of_read again style, ?_, ?_, ?_⟩
  · rw [rendered_of_read again, written]
  · rw [mismatches_of_read again, mismatches_of_read read,
      mismatchMessages_inStyleOfList]
  · rw [corrected_of_read again, corrected_of_read read,
      mismatchMessages_inStyleOfList, corrected]

/-- The report on the corrected text of types has nothing to correct. -/
theorem of_corrected
    {types : List TypeExpr}
    (readable : AreReadable types)
    (style : Style) :
    (of (renderList style (correctAll types)) style).isClean = true ∧
      (of (renderList style (correctAll types)) style).rendered =
        some (renderList style (correctAll types)) := by
  have again := readable.corrected.parse_written style
  constructor
  · rw [isClean, error_of_read again, mismatches_of_read again,
      mismatchMessages_inStyleOfList, mismatchMessages_correctAll]
    rfl
  · rw [rendered_of_read again, renderList, charsOfList_inStyleOfList, renderList]

/-- What a report without an error suggests is stable.  The report on the
written text gives the same written text, the same mismatches and the same
correction; the report on the correction is clean and gives the correction as
the written text. -/
theorem suggestions_stable
    {input : String}
    {style : Style}
    (noError : (of input style).error = none) :
    (∃ rendered, (of input style).rendered = some rendered ∧
      (of rendered style).error = none ∧
      (of rendered style).rendered = some rendered ∧
      (of rendered style).mismatches = (of input style).mismatches ∧
      (of rendered style).corrected = (of input style).corrected) ∧
    ∀ corrected, (of input style).corrected = some corrected →
      (of corrected style).isClean = true ∧
        (of corrected style).rendered = some corrected := by
  obtain ⟨types, read⟩ := exists_read noError
  refine ⟨⟨_, rendered_of_read read style, of_written read style⟩, ?_⟩
  intro corrected isCorrected
  rw [corrected_of_read read, ← correctAll_eq] at isCorrected
  split at isCorrected
  · cases isCorrected
  · obtain rfl := Option.some.inj isCorrected
    exact of_corrected (areReadable_of_parse read) style

/-- Two alternatives with names to leave out, one with a mismatch inside of
another and one with a semicolon, in the short style. -/
theorem suggestions_stable_nested :
    (of "Hash<A, Array\x7bB => Hash(C)\x7d> ; Array(D;E)" .short).error = none ∧
      (of "Hash<A, Array\x7bB => Hash(C)\x7d> ; Array(D;E)" .short).rendered =
        some "Hash<A, Array\x7bB => Hash(C)\x7d>, (D, E)" ∧
      (of "Hash<A, Array\x7bB => Hash(C)\x7d>, (D, E)" .short).corrected =
        (of "Hash<A, Array\x7bB => Hash(C)\x7d> ; Array(D;E)"
          .short).corrected ∧
      (of "Hash<A, Array\x7bB => Hash(C)\x7d> ; Array(D;E)" .short).corrected =
        some "\x7bA => \x7bB => (C)\x7d\x7d, (D, E)" ∧
      (of "\x7bA => \x7bB => (C)\x7d\x7d, (D, E)" .short).isClean = true := by
  have noError : (of "Hash<A, Array\x7bB => Hash(C)\x7d> ; Array(D;E)"
      .short).error = none := by
    decide +kernel
  have rendered : (of "Hash<A, Array\x7bB => Hash(C)\x7d> ; Array(D;E)"
      .short).rendered =
        some "Hash<A, Array\x7bB => Hash(C)\x7d>, (D, E)" := by
    decide +kernel
  have corrected : (of "Hash<A, Array\x7bB => Hash(C)\x7d> ; Array(D;E)"
      .short).corrected =
        some "\x7bA => \x7bB => (C)\x7d\x7d, (D, E)" := by
    decide +kernel
  obtain ⟨⟨_, found, _, _, _, same⟩, clean⟩ := suggestions_stable noError
  obtain rfl := Option.some.inj (rendered.symm.trans found)
  exact ⟨noError, rendered, same, corrected, (clean _ corrected).1⟩

end TypeReport
end DocLint
