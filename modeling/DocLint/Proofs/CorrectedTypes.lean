import DocLint.Proofs.RoundTrip
import DocLint.TypeExpr.Mismatch

/-!
# Corrected type expressions

Correcting a type expression leaves no mismatch in it, whatever style its names
are written in afterwards.  The correction keeps how deep the brackets nest, and
it keeps well-formed expressions well formed, so that its written form can be
read again.
-/

namespace DocLint

open Text

namespace TypeExpr

/-! ## The correction as a recursion -/

/-- A list with every mismatch corrected. -/
def correctAll (types : List TypeExpr) : List TypeExpr :=
  (correctList? types).getD types

theorem correctRoot_of_none
    {type : TypeExpr}
    (noMismatch : type.mismatch? = none) :
    type.correctRoot = type := by
  unfold correctRoot
  rw [noMismatch]

theorem getD_correctRoot? (type : TypeExpr) :
    type.correctRoot?.getD type = type.correctRoot := by
  unfold correctRoot?
  cases found : type.mismatch? with
  | none => exact (correctRoot_of_none found).symm
  | some mismatch => rfl

theorem correct_simple (name : String) :
    (simple name).correct = simple name := rfl

theorem correct_generic
    (name : String)
    (arguments : List TypeExpr) :
    (generic name arguments).correct =
      (generic name (correctAll arguments)).correctRoot := by
  rw [correct, correct?, correctAll]
  cases correctList? arguments with
  | none => exact getD_correctRoot? (generic name arguments)
  | some corrected => rfl

theorem correct_tuple
    (name : String)
    (elements : List TypeExpr) :
    (tuple name elements).correct =
      (tuple name (correctAll elements)).correctRoot := by
  rw [correct, correct?, correctAll]
  cases correctList? elements with
  | none => exact getD_correctRoot? (tuple name elements)
  | some corrected => rfl

theorem correct_mapping
    (name : String)
    (keys values : List TypeExpr) :
    (mapping name keys values).correct =
      (mapping name (correctAll keys) (correctAll values)).correctRoot := by
  rw [correct, correct?, correctAll, correctAll]
  cases correctList? keys with
  | none =>
      cases correctList? values with
      | none => exact getD_correctRoot? (mapping name keys values)
      | some corrected => rfl
  | some corrected => rfl

theorem correctAll_cons
    (type : TypeExpr)
    (rest : List TypeExpr) :
    correctAll (type :: rest) = type.correct :: correctAll rest := by
  rw [correctAll, correctList?, correct, correctAll]
  cases correct? type with
  | none =>
      cases correctList? rest with
      | none => rfl
      | some corrected => rfl
  | some corrected => rfl

/-! ## The correction of a root -/

/-- A collection in angle brackets is kept, or turned into a hash of one pair,
or takes the name of arrays. -/
theorem correctRoot_generic_cases
    (name : String)
    (arguments : List TypeExpr) :
    (name ≠ hashName ∧
      (generic name arguments).correctRoot = generic name arguments) ∨
    (∃ key value, arguments = [key, value] ∧
      (generic name arguments).correctRoot = mapping hashName [key] [value]) ∨
    (generic name arguments).correctRoot = generic arrayName arguments := by
  by_cases reserved : name = hashName
  · have found : ∃ mismatch,
        (generic name arguments).mismatch? = some mismatch := by
      simp [mismatch?, reserved]
    obtain ⟨mismatch, found⟩ := found
    unfold correctRoot
    rw [found]
    rcases arguments with _ | ⟨key, _ | ⟨value, _ | ⟨_, _⟩⟩⟩
    · exact Or.inr (Or.inr rfl)
    · exact Or.inr (Or.inr rfl)
    · exact Or.inr (Or.inl ⟨key, value, rfl, rfl⟩)
    · exact Or.inr (Or.inr rfl)
  · refine Or.inl ⟨reserved, correctRoot_of_none ?_⟩
    simp [mismatch?, reserved]

/-- A collection in parentheses is kept, or turned into a hash of one pair, or
takes the name of arrays. -/
theorem correctRoot_tuple_cases
    (name : String)
    (elements : List TypeExpr) :
    (name ≠ hashName ∧
      (tuple name elements).correctRoot = tuple name elements) ∨
    (∃ key value, elements = [key, value] ∧
      (tuple name elements).correctRoot = mapping hashName [key] [value]) ∨
    (tuple name elements).correctRoot = tuple arrayName elements := by
  by_cases reserved : name = hashName
  · have found : ∃ mismatch,
        (tuple name elements).mismatch? = some mismatch := by
      simp [mismatch?, reserved]
    obtain ⟨mismatch, found⟩ := found
    unfold correctRoot
    rw [found]
    rcases elements with _ | ⟨key, _ | ⟨value, _ | ⟨_, _⟩⟩⟩
    · exact Or.inr (Or.inr rfl)
    · exact Or.inr (Or.inr rfl)
    · exact Or.inr (Or.inl ⟨key, value, rfl, rfl⟩)
    · exact Or.inr (Or.inr rfl)
  · refine Or.inl ⟨reserved, correctRoot_of_none ?_⟩
    simp [mismatch?, reserved]

/-- A collection in braces is kept, or takes the name of hashes. -/
theorem correctRoot_mapping_cases
    (name : String)
    (keys values : List TypeExpr) :
    (name ≠ arrayName ∧
      (mapping name keys values).correctRoot = mapping name keys values) ∨
    (mapping name keys values).correctRoot = mapping hashName keys values := by
  by_cases reserved : name = arrayName
  · refine Or.inr ?_
    have found : (mapping name keys values).mismatch? =
        some .arrayWithBraces := by
      simp [mismatch?, reserved]
    unfold correctRoot
    rw [found]
  · refine Or.inl ⟨reserved, correctRoot_of_none ?_⟩
    simp [mismatch?, reserved]

/-! ## No mismatch is left -/

theorem mismatches_generic_eq_nil_iff
    {name : String}
    {arguments : List TypeExpr} :
    (generic name arguments).mismatches = [] ↔
      name ≠ hashName ∧ mismatchesOfList arguments = [] := by
  by_cases reserved : name = hashName <;>
    simp [mismatches, ownMismatch, mismatch?, reserved]

theorem mismatches_tuple_eq_nil_iff
    {name : String}
    {elements : List TypeExpr} :
    (tuple name elements).mismatches = [] ↔
      name ≠ hashName ∧ mismatchesOfList elements = [] := by
  by_cases reserved : name = hashName <;>
    simp [mismatches, ownMismatch, mismatch?, reserved]

theorem mismatches_mapping_eq_nil_iff
    {name : String}
    {keys values : List TypeExpr} :
    (mapping name keys values).mismatches = [] ↔
      name ≠ arrayName ∧ mismatchesOfList keys = [] ∧
        mismatchesOfList values = [] := by
  by_cases reserved : name = arrayName <;>
    simp [mismatches, ownMismatch, mismatch?, reserved]

theorem mismatchesOfList_cons_eq_nil_iff
    {type : TypeExpr}
    {rest : List TypeExpr} :
    mismatchesOfList (type :: rest) = [] ↔
      type.mismatches = [] ∧ mismatchesOfList rest = [] := by
  simp [mismatchesOfList]

theorem arrayName_ne_hashName : arrayName ≠ hashName := by
  decide

/-- The parts of a pair have no mismatch, so neither has the hash of it. -/
theorem mismatches_pair
    {key value : TypeExpr}
    (clean : mismatchesOfList [key, value] = []) :
    (mapping hashName [key] [value]).mismatches = [] := by
  obtain ⟨keyClean, rest⟩ := mismatchesOfList_cons_eq_nil_iff.mp clean
  obtain ⟨valueClean, _⟩ := mismatchesOfList_cons_eq_nil_iff.mp rest
  apply mismatches_mapping_eq_nil_iff.mpr
  refine ⟨arrayName_ne_hashName.symm, ?_, ?_⟩
  · exact mismatchesOfList_cons_eq_nil_iff.mpr ⟨keyClean, rfl⟩
  · exact mismatchesOfList_cons_eq_nil_iff.mpr ⟨valueClean, rfl⟩

mutual

theorem mismatches_correct : (type : TypeExpr) → type.correct.mismatches = []
  | simple name => by
      rw [correct_simple]
      rfl
  | generic name arguments => by
      have clean := mismatchesOfList_correctAll arguments
      rw [correct_generic]
      rcases correctRoot_generic_cases name (correctAll arguments) with
        ⟨notReserved, kept⟩ | ⟨key, value, pair, mapped⟩ | renamed
      · rw [kept, mismatches_generic_eq_nil_iff]
        exact ⟨notReserved, clean⟩
      · rw [mapped]
        rw [pair] at clean
        exact mismatches_pair clean
      · rw [renamed, mismatches_generic_eq_nil_iff]
        exact ⟨arrayName_ne_hashName, clean⟩
  | tuple name elements => by
      have clean := mismatchesOfList_correctAll elements
      rw [correct_tuple]
      rcases correctRoot_tuple_cases name (correctAll elements) with
        ⟨notReserved, kept⟩ | ⟨key, value, pair, mapped⟩ | renamed
      · rw [kept, mismatches_tuple_eq_nil_iff]
        exact ⟨notReserved, clean⟩
      · rw [mapped]
        rw [pair] at clean
        exact mismatches_pair clean
      · rw [renamed, mismatches_tuple_eq_nil_iff]
        exact ⟨arrayName_ne_hashName, clean⟩
  | mapping name keys values => by
      have keysClean := mismatchesOfList_correctAll keys
      have valuesClean := mismatchesOfList_correctAll values
      rw [correct_mapping]
      rcases correctRoot_mapping_cases name (correctAll keys)
        (correctAll values) with ⟨notReserved, kept⟩ | renamed
      · rw [kept, mismatches_mapping_eq_nil_iff]
        exact ⟨notReserved, keysClean, valuesClean⟩
      · rw [renamed, mismatches_mapping_eq_nil_iff]
        exact ⟨arrayName_ne_hashName.symm, keysClean, valuesClean⟩

theorem mismatchesOfList_correctAll :
    (types : List TypeExpr) → mismatchesOfList (correctAll types) = []
  | [] => rfl
  | type :: rest => by
      rw [correctAll_cons]
      exact mismatchesOfList_cons_eq_nil_iff.mpr
        ⟨mismatches_correct type, mismatchesOfList_correctAll rest⟩

end

theorem nameOf_arrayName_ne
    {name : String}
    (notHash : name ≠ hashName)
    (style : Style) :
    style.nameOf arrayName name ≠ hashName := by
  cases style with
  | long =>
      simp only [Style.nameOf]
      split
      · exact arrayName_ne_hashName
      · exact notHash
  | short =>
      simp only [Style.nameOf]
      split
      · decide
      · exact notHash

theorem nameOf_hashName_ne
    {name : String}
    (notArray : name ≠ arrayName)
    (style : Style) :
    style.nameOf hashName name ≠ arrayName := by
  cases style with
  | long =>
      simp only [Style.nameOf]
      split
      · exact arrayName_ne_hashName.symm
      · exact notArray
  | short =>
      simp only [Style.nameOf]
      split
      · decide
      · exact notArray

mutual

/-- Names in a style make no mismatch. -/
theorem mismatches_inStyle
    (style : Style) :
    (type : TypeExpr) →
    type.mismatches = [] →
    (inStyle style type).mismatches = []
  | simple _, clean => clean
  | generic name arguments, clean => by
      obtain ⟨notReserved, inner⟩ := mismatches_generic_eq_nil_iff.mp clean
      exact mismatches_generic_eq_nil_iff.mpr
        ⟨nameOf_arrayName_ne notReserved style,
          mismatchesOfList_inStyleOfList style arguments inner⟩
  | tuple name elements, clean => by
      obtain ⟨notReserved, inner⟩ := mismatches_tuple_eq_nil_iff.mp clean
      exact mismatches_tuple_eq_nil_iff.mpr
        ⟨nameOf_arrayName_ne notReserved style,
          mismatchesOfList_inStyleOfList style elements inner⟩
  | mapping name keys values, clean => by
      obtain ⟨notReserved, keysClean, valuesClean⟩ :=
        mismatches_mapping_eq_nil_iff.mp clean
      exact mismatches_mapping_eq_nil_iff.mpr
        ⟨nameOf_hashName_ne notReserved style,
          mismatchesOfList_inStyleOfList style keys keysClean,
          mismatchesOfList_inStyleOfList style values valuesClean⟩

theorem mismatchesOfList_inStyleOfList
    (style : Style) :
    (types : List TypeExpr) →
    mismatchesOfList types = [] →
    mismatchesOfList (inStyleOfList style types) = []
  | [], _ => rfl
  | type :: rest, clean => by
      obtain ⟨typeClean, restClean⟩ := mismatchesOfList_cons_eq_nil_iff.mp clean
      exact mismatchesOfList_cons_eq_nil_iff.mpr
        ⟨mismatches_inStyle style type typeClean,
          mismatchesOfList_inStyleOfList style rest restClean⟩

end

/-! ## Nesting and well-formedness are kept -/

mutual

theorem nesting_correct : (type : TypeExpr) → type.correct.nesting = type.nesting
  | simple _ => rfl
  | generic name arguments => by
      have inner := nestingOfList_correctAll arguments
      rw [correct_generic]
      rcases correctRoot_generic_cases name (correctAll arguments) with
        ⟨_, kept⟩ | ⟨key, value, pair, mapped⟩ | renamed
      · rw [kept, nesting, nesting, inner]
      · rw [pair] at inner
        rw [mapped]
        simp only [nesting, nestingOfList] at inner ⊢
        omega
      · rw [renamed, nesting, nesting, inner]
  | tuple name elements => by
      have inner := nestingOfList_correctAll elements
      rw [correct_tuple]
      rcases correctRoot_tuple_cases name (correctAll elements) with
        ⟨_, kept⟩ | ⟨key, value, pair, mapped⟩ | renamed
      · rw [kept, nesting, nesting, inner]
      · rw [pair] at inner
        rw [mapped]
        simp only [nesting, nestingOfList] at inner ⊢
        omega
      · rw [renamed, nesting, nesting, inner]
  | mapping name keys values => by
      have keysInner := nestingOfList_correctAll keys
      have valuesInner := nestingOfList_correctAll values
      rw [correct_mapping]
      rcases correctRoot_mapping_cases name (correctAll keys)
        (correctAll values) with ⟨_, kept⟩ | renamed
      · rw [kept, nesting, nesting, keysInner, valuesInner]
      · rw [renamed, nesting, nesting, keysInner, valuesInner]

theorem nestingOfList_correctAll :
    (types : List TypeExpr) →
    nestingOfList (correctAll types) = nestingOfList types
  | [] => rfl
  | type :: rest => by
      rw [correctAll_cons, nestingOfList, nestingOfList, nesting_correct type,
        nestingOfList_correctAll rest]

end

theorem correctAll_ne_nil
    {types : List TypeExpr}
    (nonempty : types ≠ []) :
    correctAll types ≠ [] := by
  cases types with
  | nil => exact absurd rfl nonempty
  | cons type rest =>
      rw [correctAll_cons]
      simp

/-- The hash of a pair is well formed when both parts are. -/
theorem isWellFormed_pair
    {key value : TypeExpr}
    (wellFormed : AreWellFormed [key, value]) :
    IsWellFormed (mapping hashName [key] [value]) := by
  obtain ⟨keyFormed, valueFormed, _⟩ := wellFormed
  exact ⟨isFrontName_hashName, ⟨by simp, keyFormed, trivial⟩,
    ⟨by simp, valueFormed, trivial⟩⟩

mutual

theorem isWellFormed_correct :
    (type : TypeExpr) →
    type.IsWellFormed →
    type.correct.IsWellFormed
  | simple _, wellFormed => wellFormed
  | generic name arguments, ⟨isFrontName, nonempty, wellFormed⟩ => by
      have inner := areWellFormed_correctAll arguments wellFormed
      have still := correctAll_ne_nil nonempty
      rw [correct_generic]
      rcases correctRoot_generic_cases name (correctAll arguments) with
        ⟨_, kept⟩ | ⟨key, value, pair, mapped⟩ | renamed
      · rw [kept]
        exact ⟨isFrontName, still, inner⟩
      · rw [mapped]
        rw [pair] at inner
        exact isWellFormed_pair inner
      · rw [renamed]
        exact ⟨isFrontName_arrayName, still, inner⟩
  | tuple name elements, ⟨isFrontName, nonempty, wellFormed⟩ => by
      have inner := areWellFormed_correctAll elements wellFormed
      have still := correctAll_ne_nil nonempty
      rw [correct_tuple]
      rcases correctRoot_tuple_cases name (correctAll elements) with
        ⟨_, kept⟩ | ⟨key, value, pair, mapped⟩ | renamed
      · rw [kept]
        exact ⟨isFrontName, still, inner⟩
      · rw [mapped]
        rw [pair] at inner
        exact isWellFormed_pair inner
      · rw [renamed]
        exact ⟨isFrontName_arrayName, still, inner⟩
  | mapping name keys values, ⟨isFrontName, keysFormed, valuesFormed⟩ => by
      have keysInner := areWellFormed_correctAll keys keysFormed.2
      have valuesInner := areWellFormed_correctAll values valuesFormed.2
      have keysStill := correctAll_ne_nil keysFormed.1
      have valuesStill := correctAll_ne_nil valuesFormed.1
      rw [correct_mapping]
      rcases correctRoot_mapping_cases name (correctAll keys)
        (correctAll values) with ⟨_, kept⟩ | renamed
      · rw [kept]
        exact ⟨isFrontName, ⟨keysStill, keysInner⟩, valuesStill, valuesInner⟩
      · rw [renamed]
        exact ⟨isFrontName_hashName, ⟨keysStill, keysInner⟩, valuesStill,
          valuesInner⟩

theorem areWellFormed_correctAll :
    (types : List TypeExpr) →
    AreWellFormed types →
    AreWellFormed (correctAll types)
  | [], _ => trivial
  | type :: rest, ⟨wellFormed, restFormed⟩ => by
      rw [correctAll_cons]
      exact ⟨isWellFormed_correct type wellFormed,
        areWellFormed_correctAll rest restFormed⟩

end

/-! ## Written forms in a style -/

theorem nameOf_nameOf
    (style : Style)
    (reserved name : String) :
    style.nameOf reserved (style.nameOf reserved name) =
      style.nameOf reserved name := by
  cases style with
  | long =>
      by_cases elided : name = ""
      · simp [Style.nameOf, elided]
      · simp [Style.nameOf, elided]
  | short =>
      by_cases isReserved : name = reserved
      · simp [Style.nameOf, isReserved]
      · simp [Style.nameOf, isReserved]

mutual

/-- The written form in a style depends on the names in that style only. -/
theorem chars_inStyle
    (style : Style) :
    (type : TypeExpr) →
    chars style (inStyle style type) = chars style type
  | simple _ => rfl
  | generic name arguments => by
      rw [inStyle, chars_generic, chars_generic, nameOf_nameOf,
        charsOfList_inStyleOfList style arguments]
  | tuple name elements => by
      rw [inStyle, chars_tuple, chars_tuple, nameOf_nameOf,
        charsOfList_inStyleOfList style elements]
  | mapping name keys values => by
      rw [inStyle, chars_mapping, chars_mapping, nameOf_nameOf,
        charsOfList_inStyleOfList style keys,
        charsOfList_inStyleOfList style values]

theorem charsOfList_inStyleOfList
    (style : Style) :
    (types : List TypeExpr) →
    charsOfList style (inStyleOfList style types) = charsOfList style types
  | [] => rfl
  | [type] => by
      simp only [inStyleOfList, charsOfList, charsOfRest,
        chars_inStyle style type]
  | type :: next :: rest => by
      have written (first second : TypeExpr) (others : List TypeExpr) :
          charsOfList style (first :: second :: others) =
            chars style first ++
              ',' :: ' ' :: charsOfList style (second :: others) := by
        rw [charsOfList, charsOfRest_cons]
      have behind := charsOfList_inStyleOfList style (next :: rest)
      rw [inStyleOfList] at behind
      rw [inStyleOfList, inStyleOfList, written, behind,
        chars_inStyle style type, written]

end

/-! ## Reading and writing one expression -/

theorem isFrontName_of_isFront
    {front : List TokenKind}
    {name : String}
    (isFront : IsFront front name)
    (names : ∀ other, .name other ∈ front → IsName other.toList) :
    IsFrontName name := by
  cases isFront with
  | elided => exact Or.inl rfl
  | written name => exact Or.inr (names name (by simp))

mutual

/-- An expression derived from names of the lexical grammar is well formed. -/
theorem isWellFormed_of_isType
    {kinds : List TokenKind}
    {type : TypeExpr}
    (isType : IsType kinds type)
    (names : ∀ name, .name name ∈ kinds → IsName name.toList) :
    type.IsWellFormed := by
  cases isType with
  | simple name => exact names name (by simp)
  | generic isFront isList =>
      refine ⟨isFrontName_of_isFront isFront fun name member =>
          names name (by simp [member]),
        areWellFormed_of_isList isList fun name member =>
          names name (by simp [member])⟩
  | tuple isFront isList =>
      refine ⟨isFrontName_of_isFront isFront fun name member =>
          names name (by simp [member]),
        areWellFormed_of_isList isList fun name member =>
          names name (by simp [member])⟩
  | mapping isFront isKeys isValues =>
      refine ⟨isFrontName_of_isFront isFront fun name member =>
          names name (by simp [member]),
        areWellFormed_of_isList isKeys fun name member =>
          names name (by simp [member]),
        areWellFormed_of_isList isValues fun name member =>
          names name (by simp [member])⟩

theorem areWellFormed_of_isList
    {kinds : List TokenKind}
    {types : List TypeExpr}
    (isList : IsList kinds types)
    (names : ∀ name, .name name ∈ kinds → IsName name.toList) :
    types ≠ [] ∧ AreWellFormed types := by
  cases isList with
  | one isType =>
      exact ⟨by simp, isWellFormed_of_isType isType names, trivial⟩
  | more isType isRest =>
      refine ⟨by simp, isWellFormed_of_isType isType fun name member =>
          names name (by simp [member]), ?_⟩
      exact (areWellFormed_of_isList isRest fun name member =>
        names name (by simp [member])).2

end

end TypeExpr

/-- The name of a token is a name of the lexical grammar. -/
theorem TokensAt.isName_of_mem
    {offset : Nat}
    {text : List Char}
    {tokens : List Token}
    (tokensAt : TokensAt offset text tokens)
    {token : Token}
    (member : token ∈ tokens)
    {name : String}
    (kindEq : token.kind = .name name) :
    IsName name.toList := by
  induction tokensAt with
  | nil => exact absurd member (by simp)
  | blank _ _ hypothesis => exact hypothesis member
  | @token offset kind lexeme rest tokens isLexeme _ _ hypothesis =>
      rcases List.mem_cons.mp member with rfl | member
      · obtain rfl : kind = .name name := kindEq
        cases isLexeme with
        | name isName =>
            rw [String.toList_ofList]
            exact isName
      · exact hypothesis member

/-- A written expression is well formed. -/
theorem Writes.isWellFormed
    {text : List Char}
    {type : TypeExpr}
    (writes : Writes text type) :
    type.IsWellFormed := by
  obtain ⟨kinds, ⟨tokens, tokensAt, rfl⟩, isType⟩ := writes.derived
  apply TypeExpr.isWellFormed_of_isType isType
  intro name member
  obtain ⟨token, tokenMember, kindEq⟩ := List.mem_map.mp member
  exact tokensAt.isName_of_mem tokenMember kindEq

/-- A text of type characters is tight. -/
theorem isTight_of_isTypeChar
    {text : List Char}
    (nonempty : text ≠ [])
    (typeChars : ∀ c ∈ text, isTypeChar c = true) :
    IsTight text := by
  have notBlank {c : Char} (member : c ∈ text) : isBlank c = false :=
    isBlank_eq_false_of_isTypeChar (typeChars c member)
  constructor
  · refine ⟨text.head nonempty, List.head?_eq_some_head nonempty, ?_⟩
    exact notBlank (List.head_mem nonempty)
  · refine ⟨text.getLast nonempty, List.getLast?_eq_some_getLast nonempty, ?_⟩
    exact notBlank (List.getLast_mem nonempty)

theorem isTypeChar_of_mem_name
    {name : List Char}
    (isName : IsName name)
    {c : Char}
    (member : c ∈ name) :
    isTypeChar c = true :=
  (Lexeme.name isName).isTypeChar_of_mem member

/-- A name with brackets behind it starts and ends with no blank. -/
theorem isTight_bracketed
    {name : String}
    (isFrontName : IsFrontName name)
    (bracket : Bracket)
    (inner : List Char) :
    IsTight (name.toList ++
      bracket.openChar :: (inner ++ [bracket.closeChar])) := by
  have opens : isBlank bracket.openChar = false := by
    cases bracket <;> decide
  have closes : isBlank bracket.closeChar = false := by
    cases bracket <;> decide
  constructor
  · rcases isFrontName with rfl | isName
    · exact ⟨bracket.openChar, rfl, opens⟩
    · have nonempty : name.toList ≠ [] := (Lexeme.name isName).ne_nil
      refine ⟨name.toList.head nonempty, ?_, ?_⟩
      · rw [List.head?_append_of_ne_nil _ nonempty,
          List.head?_eq_some_head nonempty]
      · exact isBlank_eq_false_of_isTypeChar
          (isTypeChar_of_mem_name isName (List.head_mem nonempty))
  · refine ⟨bracket.closeChar, ?_, closes⟩
    rw [← List.cons_append, ← List.append_assoc, List.getLast?_concat]

namespace TypeExpr

/-- The written form of a well-formed expression writes it in its style. -/
theorem IsWellFormed.writes
    {type : TypeExpr}
    (wellFormed : type.IsWellFormed)
    (style : Style) :
    Writes (chars style type) (inStyle style type) := by
  refine ⟨?_, chars_spells style type wellFormed⟩
  cases type with
  | simple name =>
      have isName : IsName name.toList := wellFormed
      exact isTight_of_isTypeChar (Lexeme.name isName).ne_nil
        fun c member => isTypeChar_of_mem_name isName member
  | generic name arguments =>
      rw [chars_generic]
      exact isTight_bracketed
        (wellFormed.1.nameOf isFrontName_arrayName style) .angle _
  | tuple name elements =>
      rw [chars_tuple]
      exact isTight_bracketed
        (wellFormed.1.nameOf isFrontName_arrayName style) .paren _
  | mapping name keys values =>
      rw [chars_mapping]
      exact isTight_bracketed
        (wellFormed.1.nameOf isFrontName_hashName style) .brace _

end TypeExpr

/-- The corrected form of an expression that is written somewhere. -/
theorem Writes.corrected
    {text : List Char}
    {type : TypeExpr}
    (writes : Writes text type)
    (style : Style) :
    Writes (type.correct.chars style) (type.correct.inStyle style) :=
  (TypeExpr.isWellFormed_correct type writes.isWellFormed).writes style

end DocLint
