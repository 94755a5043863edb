import DocLint.Proofs.CorrectedNodes
import DocLint.Proofs.Rearranging
import DocLint.Proofs.SyntaxErrors

/-!
# How deep brackets may nest

The level of a bracket is told from the tokens in front of it: it is the number
of brackets that are still open there, and the bracket itself.  Tokens that
derive type expressions are read whole as long as no bracket is beyond the last
level that is allowed, and otherwise reading stops at the leftmost bracket that
is.  A derivation opens as many brackets as it closes, so what has been read in
front of a bracket does not count for its level.
-/

namespace DocLint

open Text

/-! ## Levels of brackets -/

/-- How many brackets a token leaves open. -/
def TokenKind.opened : TokenKind → Int
  | .opening _ => 1
  | .closing _ => -1
  | .name _ | .arrow | .separator => 0

/-- How many brackets are open behind some tokens. -/
def openBrackets : List TokenKind → Int
  | [] => 0
  | kind :: rest => kind.opened + openBrackets rest

/-- Every bracket that is opened in some tokens is at one of the allowed
levels. -/
def NestsWithin (levels : Int) (kinds : List TokenKind) : Prop :=
  ∀ before bracket, before ++ [.opening bracket] <+: kinds →
    openBrackets before + 1 ≤ levels

@[simp]
theorem openBrackets_nil : openBrackets [] = 0 := rfl

@[simp]
theorem openBrackets_cons
    (kind : TokenKind)
    (rest : List TokenKind) :
    openBrackets (kind :: rest) = kind.opened + openBrackets rest := rfl

@[simp]
theorem openBrackets_append
    (left right : List TokenKind) :
    openBrackets (left ++ right) = openBrackets left + openBrackets right := by
  induction left with
  | nil => rw [List.nil_append, openBrackets_nil, Int.zero_add]
  | cons kind rest hypothesis =>
      rw [List.cons_append, openBrackets_cons, openBrackets_cons, hypothesis,
        Int.add_assoc]

namespace NestsWithin

variable {levels : Int}

@[simp]
theorem nil : NestsWithin levels [] := by
  intro before bracket isPrefix
  exact absurd (List.prefix_nil.mp isPrefix) (by simp)

/-- The first token may open a bracket, and moves the levels of all others. -/
theorem cons_iff
    {kind : TokenKind}
    {rest : List TokenKind} :
    NestsWithin levels (kind :: rest) ↔
      (∀ bracket, kind = .opening bracket → 1 ≤ levels) ∧
        NestsWithin (levels - kind.opened) rest := by
  constructor
  · intro within
    constructor
    · rintro bracket rfl
      simpa using within [] bracket ⟨rest, rfl⟩
    · intro before bracket isPrefix
      have bound := within (kind :: before) bracket
        ((List.prefix_cons_inj kind).mpr isPrefix)
      rw [openBrackets_cons] at bound
      omega
  · rintro ⟨first, further⟩ before bracket isPrefix
    cases before with
    | nil =>
        obtain ⟨isFirst, _⟩ := List.cons_prefix_cons.mp isPrefix
        simpa using first bracket isFirst.symm
    | cons other before =>
        obtain ⟨rfl, behind⟩ := List.cons_prefix_cons.mp isPrefix
        have bound := further before bracket behind
        rw [openBrackets_cons]
        omega

theorem append_iff
    {left right : List TokenKind} :
    NestsWithin levels (left ++ right) ↔
      NestsWithin levels left ∧
        NestsWithin (levels - openBrackets left) right := by
  induction left generalizing levels with
  | nil => simp
  | cons kind rest hypothesis =>
      rw [List.cons_append, cons_iff, hypothesis, cons_iff, and_assoc,
        openBrackets_cons, Int.sub_sub]

end NestsWithin

/-! ## Levels and derivations -/

section Fronts

variable {front : List TokenKind}
variable {name : String}

/-- A name in front of brackets has no brackets. -/
theorem IsFront.openBrackets_eq (isFront : IsFront front name) :
    openBrackets front = 0 := by
  cases isFront <;> rfl

theorem IsFront.nestsWithin
    (isFront : IsFront front name)
    (levels : Int) :
    NestsWithin levels front := by
  cases isFront with
  | elided => exact .nil
  | written name => exact NestsWithin.cons_iff.mpr ⟨by simp, .nil⟩

end Fronts

mutual

/-- A type closes all brackets that it opens. -/
theorem IsType.openBrackets_eq
    {kinds : List TokenKind}
    {type : TypeExpr}
    (isType : IsType kinds type) :
    openBrackets kinds = 0 := by
  cases isType with
  | simple name => rfl
  | generic isFront isInner =>
      simp [isFront.openBrackets_eq, isInner.openBrackets_eq,
        TokenKind.opened]
  | tuple isFront isInner =>
      simp [isFront.openBrackets_eq, isInner.openBrackets_eq,
        TokenKind.opened]
  | mapping isFront isLeft isRight =>
      simp [isFront.openBrackets_eq, isLeft.openBrackets_eq,
        isRight.openBrackets_eq, TokenKind.opened]

theorem IsList.openBrackets_eq
    {kinds : List TokenKind}
    {types : List TypeExpr}
    (isList : IsList kinds types) :
    openBrackets kinds = 0 := by
  cases isList with
  | one isType => exact isType.openBrackets_eq
  | more isType isRest =>
      simp [isType.openBrackets_eq, isRest.openBrackets_eq, TokenKind.opened]

end

/-- A pair of brackets adds one level to what stands between them. -/
theorem nestsWithin_bracketed_iff
    {front inner : List TokenKind}
    {name : String}
    (isFront : IsFront front name)
    (bracket : Bracket)
    {levels : Nat} :
    NestsWithin levels
        (front ++ .opening bracket :: (inner ++ [.closing bracket])) ↔
      ∃ fewer : Nat, levels = fewer + 1 ∧ NestsWithin fewer inner := by
  rw [NestsWithin.append_iff, isFront.openBrackets_eq, NestsWithin.cons_iff,
    NestsWithin.append_iff, NestsWithin.cons_iff]
  simp only [isFront.nestsWithin, TokenKind.opened, NestsWithin.nil, true_and,
    and_true, Int.sub_zero, TokenKind.opening.injEq, reduceCtorEq, false_imp_iff,
    implies_true]
  constructor
  · rintro ⟨positive, within⟩
    have positive := positive bracket rfl
    refine ⟨levels - 1, by omega, ?_⟩
    rwa [show ((levels - 1 : Nat) : Int) = (levels : Int) - 1 by omega]
  · rintro ⟨fewer, rfl, within⟩
    refine ⟨fun _ _ => by omega, ?_⟩
    rwa [show ((fewer + 1 : Nat) : Int) - 1 = fewer by omega]

mutual

/-- The levels of the brackets of a type are told from the type. -/
theorem IsType.nestsWithin_iff
    {kinds : List TokenKind}
    {type : TypeExpr}
    (isType : IsType kinds type)
    (levels : Nat) :
    NestsWithin levels kinds ↔ type.nesting ≤ levels := by
  have bracketed {within : Nat → Prop} {depth : Nat}
      (within_iff : ∀ fewer, within fewer ↔ depth ≤ fewer) :
      (∃ fewer, levels = fewer + 1 ∧ within fewer) ↔ depth + 1 ≤ levels := by
    constructor
    · rintro ⟨fewer, rfl, holds⟩
      exact Nat.succ_le_succ ((within_iff fewer).mp holds)
    · intro bound
      exact ⟨levels - 1, by omega, (within_iff _).mpr (by omega)⟩
  cases isType with
  | simple name =>
      simp [NestsWithin.cons_iff, TypeExpr.nesting]
  | generic isFront isInner =>
      rw [nestsWithin_bracketed_iff isFront]
      exact bracketed isInner.nestsWithin_iff
  | tuple isFront isInner =>
      rw [nestsWithin_bracketed_iff isFront]
      exact bracketed isInner.nestsWithin_iff
  | @mapping front left right name keys values isFront isLeft isRight =>
      rw [nestsWithin_bracketed_iff isFront]
      apply bracketed
      intro fewer
      rw [NestsWithin.append_iff, NestsWithin.cons_iff,
        isLeft.openBrackets_eq, isLeft.nestsWithin_iff, Nat.max_le]
      simp [TokenKind.opened, isRight.nestsWithin_iff]

theorem IsList.nestsWithin_iff
    {kinds : List TokenKind}
    {types : List TypeExpr}
    (isList : IsList kinds types)
    (levels : Nat) :
    NestsWithin levels kinds ↔ TypeExpr.nestingOfList types ≤ levels := by
  cases isList with
  | one isType =>
      rw [isType.nestsWithin_iff, TypeExpr.nestingOfList,
        TypeExpr.nestingOfList, Nat.max_zero]
  | more isType isRest =>
      rw [NestsWithin.append_iff, NestsWithin.cons_iff,
        isType.openBrackets_eq, isType.nestsWithin_iff,
        TypeExpr.nestingOfList, Nat.max_le]
      simp [TokenKind.opened, isRest.nestsWithin_iff]

end

/-! ## The leftmost bracket beyond the levels -/

/-- A bracket of some tokens is opened beyond the levels that are allowed, and
all brackets in front of it are within them. -/
structure IsFirstBeyond
    (levels : Nat)
    (tokens before : List Token)
    (opening : Token) : Prop where
  split : ∃ after, tokens = before ++ opening :: after
  isOpening : ∃ bracket, opening.kind = .opening bracket
  level : openBrackets (before.map Token.kind) = levels
  within : NestsWithin levels (before.map Token.kind)

namespace IsFirstBeyond

variable {levels : Nat}
variable {tokens before : List Token}
variable {opening : Token}

theorem append_right
    (isFirst : IsFirstBeyond levels tokens before opening)
    (more : List Token) :
    IsFirstBeyond levels (tokens ++ more) before opening := by
  obtain ⟨after, rfl⟩ := isFirst.split
  exact ⟨⟨after ++ more, by simp⟩, isFirst.isOpening, isFirst.level,
    isFirst.within⟩

/-- Tokens in front that close what they open move no level. -/
theorem append_left
    (isFirst : IsFirstBeyond levels tokens before opening)
    {front : List Token}
    (closed : openBrackets (front.map Token.kind) = 0)
    (within : NestsWithin levels (front.map Token.kind)) :
    IsFirstBeyond levels (front ++ tokens) (front ++ before) opening := by
  obtain ⟨after, rfl⟩ := isFirst.split
  refine ⟨⟨after, (List.append_assoc _ _ _).symm⟩, isFirst.isOpening, ?_, ?_⟩
  · rw [List.map_append, openBrackets_append, closed, isFirst.level,
      Int.zero_add]
  · rw [List.map_append, NestsWithin.append_iff, closed, Int.sub_zero]
    exact ⟨within, isFirst.within⟩

/-- So do such tokens with a separator or an arrow behind them. -/
theorem append_left_cons
    (isFirst : IsFirstBeyond levels tokens before opening)
    {front : List Token}
    (closed : openBrackets (front.map Token.kind) = 0)
    (within : NestsWithin levels (front.map Token.kind))
    {middle : Token}
    (divides : middle.kind = .separator ∨ middle.kind = .arrow) :
    IsFirstBeyond levels (front ++ middle :: tokens)
      (front ++ middle :: before) opening := by
  have alone : openBrackets [middle.kind] = 0 ∧
      NestsWithin levels [middle.kind] := by
    rcases divides with isSeparator | isArrow
    · simp [isSeparator, NestsWithin.cons_iff, TokenKind.opened]
    · simp [isArrow, NestsWithin.cons_iff, TokenKind.opened]
  have behind : IsFirstBeyond levels ([middle] ++ tokens) ([middle] ++ before)
      opening :=
    isFirst.append_left alone.1 alone.2
  exact behind.append_left closed within

/-- A bracket in front moves every level by one. -/
theorem opened
    (isFirst : IsFirstBeyond levels tokens before opening)
    {first : Token}
    {bracket : Bracket}
    (isBracket : first.kind = .opening bracket) :
    IsFirstBeyond (levels + 1) (first :: tokens) (first :: before)
      opening := by
  obtain ⟨after, rfl⟩ := isFirst.split
  refine ⟨⟨after, rfl⟩, isFirst.isOpening, ?_, ?_⟩
  · rw [List.map_cons, openBrackets_cons, isBracket, isFirst.level,
      TokenKind.opened]
    omega
  · rw [List.map_cons, NestsWithin.cons_iff, isBracket, TokenKind.opened,
      show ((levels + 1 : Nat) : Int) - 1 = levels by omega]
    exact ⟨fun _ _ => by omega, isFirst.within⟩

/-- Without a level the first bracket is one too many. -/
theorem of_isFront
    {front : List Token}
    {name : String}
    (isFront : IsFront (front.map Token.kind) name)
    {bracket : Bracket}
    (isBracket : opening.kind = .opening bracket)
    (rest : List Token) :
    IsFirstBeyond 0 (front ++ opening :: rest) front opening :=
  ⟨⟨rest, rfl⟩, ⟨bracket, isBracket⟩, isFront.openBrackets_eq,
    isFront.nestsWithin _⟩

end IsFirstBeyond

/-! ## Reading stops at that bracket -/

namespace Parser

section Errors

variable {ending : Ending}
variable {item : (tokens : List Token) → Outcome Alternative tokens}
variable {tokens more : List Token}
variable {first : Alternative}
variable {separator : Token}
variable {error : SyntaxError}

theorem separated_eq_error_of_first
    (failed : item tokens = .error error) :
    separated ending item tokens = .error error := by
  rw [separated, failed]

theorem separated_eq_error_of_others
    {less : (separator :: more).length < tokens.length}
    (read : item tokens = .ok (first, ⟨separator :: more, less⟩))
    (isSeparator : separator.kind = .separator)
    (failed : separated ending item more = .error error) :
    separated ending item tokens = .error error := by
  rw [separated, read]
  simp [isSeparator, failed]

theorem bracketed_eq_error_of_first
    (failed : separated ending item tokens = .error error)
    (name : String)
    (bracket : Bracket) :
    bracketed ending item name bracket tokens = .error error :=
  bind_eq_error.mpr (Or.inl failed)

theorem bracketed_eq_error_of_values
    {keys : List Alternative}
    {arrow : Token}
    {less : (arrow :: more).length < tokens.length}
    (read : separated ending item tokens = .ok (keys, ⟨arrow :: more, less⟩))
    (isArrow : arrow.kind = .arrow)
    (failed : separated ending item more = .error error)
    (name : String) :
    bracketed ending item name .brace tokens = .error error := by
  refine bind_eq_error.mpr (Or.inr ⟨_, read, ?_⟩)
  refine bind_eq_error.mpr
    (Or.inr ⟨_, expect_complete ending .brace isArrow more, ?_⟩)
  exact bind_eq_error.mpr (Or.inl failed)

/-- A type fails where its brackets do, behind a written name or alone. -/
theorem type_eq_error_of_collection
    {levels : Nat}
    {name : String}
    {bracket : Bracket}
    {front inner : List Token}
    {opening : Token}
    (isFront : IsFront (front.map Token.kind) name)
    (isOpening : opening.kind = .opening bracket)
    (failed : ∀ start,
      collection ending levels name start bracket opening.start inner =
        .error error) :
    type ending levels (front ++ opening :: inner) = .error error := by
  obtain ⟨kind, start, stop⟩ := opening
  obtain rfl : kind = .opening bracket := isOpening
  generalize kinds : front.map Token.kind = spelled at isFront
  cases isFront with
  | elided =>
      obtain rfl := List.map_eq_nil_iff.mp kinds
      exact bind_eq_error.mpr (Or.inl (failed start))
  | written =>
      obtain ⟨⟨_, nameStart, nameStop⟩, rfl, rfl⟩ :=
        List.map_eq_singleton_iff.mp kinds
      exact bind_eq_error.mpr (Or.inl (failed nameStart))

end Errors

/-- Reading fails at the leftmost bracket of some tokens that is beyond the
levels that are allowed. -/
def FailsBeyond
    (levels : Nat)
    (tokens : List Token)
    {α : Type}
    (outcome : Except SyntaxError α) : Prop :=
  ∃ before opening, IsFirstBeyond levels tokens before opening ∧
    outcome = .error ⟨.tooDeep, opening.start⟩

/-- Brackets fail themselves if no level is left, and otherwise where what
stands between them does. -/
theorem type_failsBeyond_of_bracketed
    {ending : Ending}
    {levels : Nat}
    {name : String}
    {bracket : Bracket}
    {front body rest : List Token}
    {opening : Token}
    (isFront : IsFront (front.map Token.kind) name)
    (isOpening : opening.kind = .opening bracket)
    (inside : ∀ fewer, levels = fewer + 1 →
      FailsBeyond fewer body
        (bracketed ending (type ending fewer) name bracket (body ++ rest))) :
    FailsBeyond levels (front ++ opening :: body)
      (type ending levels (front ++ opening :: body ++ rest)) := by
  rw [List.append_assoc, List.cons_append]
  cases levels with
  | zero =>
      refine ⟨front, opening, .of_isFront isFront isOpening body, ?_⟩
      exact type_eq_error_of_collection isFront isOpening fun _ => rfl
  | succ fewer =>
      obtain ⟨before, found, isFirst, failed⟩ := inside fewer rfl
      refine ⟨front ++ opening :: before, found,
        (isFirst.opened isOpening).append_left isFront.openBrackets_eq
          (isFront.nestsWithin _), ?_⟩
      apply type_eq_error_of_collection isFront isOpening
      intro start
      rw [collection]
      exact bind_eq_error.mpr (Or.inl failed)

/-- What is read first between brackets is what they fail in. -/
theorem FailsBeyond.bracketed
    {ending : Ending}
    {levels : Nat}
    {body more rest : List Token}
    (fails : FailsBeyond levels body
      (separated ending (type ending levels) (body ++ (more ++ rest))))
    (name : String)
    (bracket : Bracket) :
    FailsBeyond levels (body ++ more)
      (bracketed ending (type ending levels) name bracket
        (body ++ more ++ rest)) := by
  obtain ⟨before, found, isFirst, failed⟩ := fails
  rw [← List.append_assoc] at failed
  exact ⟨before, found, isFirst.append_right more,
    bracketed_eq_error_of_first failed name bracket⟩

/-! Derivations are followed as for complete readings.  What stands in front of the
part that nests too deep is read as it is derived. -/

mutual

/-- A type with more levels than are allowed fails at its leftmost bracket
beyond them. -/
theorem type_failsBeyond
    (ending : Ending)
    {kinds : List TokenKind}
    {expression : TypeExpr}
    (derived : IsType kinds expression)
    {levels : Nat}
    {segment : List Token}
    (spelled : segment.map Token.kind = kinds)
    (deep : levels < expression.nesting)
    (rest : List Token) :
    FailsBeyond levels segment (type ending levels (segment ++ rest)) := by
  cases derived with
  | simple name => exact absurd deep (Nat.not_lt_zero _)
  | @generic front inner name arguments isFront isInner =>
      obtain ⟨frontTokens, opening, body, closing, rfl, rfl, isOpening, rfl,
        isClosing⟩ := exists_bracketed spelled
      apply type_failsBeyond_of_bracketed isFront isOpening
      rintro fewer rfl
      have fails := list_failsBeyond ending isInner rfl
        (Nat.lt_of_succ_lt_succ deep) ([closing] ++ rest)
      exact fails.bracketed name .angle
  | @tuple front inner name elements isFront isInner =>
      obtain ⟨frontTokens, opening, body, closing, rfl, rfl, isOpening, rfl,
        isClosing⟩ := exists_bracketed spelled
      apply type_failsBeyond_of_bracketed isFront isOpening
      rintro fewer rfl
      have fails := list_failsBeyond ending isInner rfl
        (Nat.lt_of_succ_lt_succ deep) ([closing] ++ rest)
      exact fails.bracketed name .paren
  | @mapping front left right name keys values isFront isLeft isRight =>
      obtain ⟨frontTokens, opening, body, closing, rfl, rfl, isOpening,
        bodySpelled, isClosing⟩ := exists_bracketed spelled
      obtain ⟨leftTokens, _, rfl, rfl, behindLeft⟩ :=
        List.map_eq_append_iff.mp bodySpelled
      obtain ⟨arrow, rightTokens, rfl, isArrow, rfl⟩ :=
        List.map_eq_cons_iff.mp behindLeft
      apply type_failsBeyond_of_bracketed isFront isOpening
      rintro fewer rfl
      by_cases keysDeep : fewer < TypeExpr.nestingOfList keys
      · have fails := list_failsBeyond ending isLeft rfl keysDeep
          (arrow :: rightTokens ++ [closing] ++ rest)
        rw [List.append_assoc leftTokens]
        exact fails.bracketed name .brace
      · -- The keys are read, so the values nest too deep.
        have keysBound := Nat.le_of_not_lt keysDeep
        have valuesDeep : fewer < TypeExpr.nestingOfList values := by
          rw [TypeExpr.nesting] at deep
          omega
        obtain ⟨_, _, rfl, _, leftRead⟩ :=
          list_complete isLeft rfl keysBound
            (show Stops ending
                (arrow :: (rightTokens ++ ([closing] ++ rest))) by
              simp [Stops, isArrow])
        obtain ⟨before, found, isFirst, failed⟩ :=
          list_failsBeyond ending isRight rfl valuesDeep ([closing] ++ rest)
        have within := (isLeft.nestsWithin_iff fewer).mpr keysBound
        refine ⟨leftTokens ++ arrow :: before, found,
          (isFirst.append_left_cons isLeft.openBrackets_eq within
            (Or.inr isArrow)).append_right [closing], ?_⟩
        rw [List.append_assoc, List.append_assoc, List.cons_append]
        exact bracketed_eq_error_of_values leftRead isArrow failed name

/-- A list with more levels than are allowed fails at its leftmost bracket
beyond them. -/
theorem list_failsBeyond
    (ending : Ending)
    {kinds : List TokenKind}
    {types : List TypeExpr}
    (derived : IsList kinds types)
    {levels : Nat}
    {segment : List Token}
    (spelled : segment.map Token.kind = kinds)
    (deep : levels < TypeExpr.nestingOfList types)
    (rest : List Token) :
    FailsBeyond levels segment
      (separated ending (type ending levels) (segment ++ rest)) := by
  cases derived with
  | one isType =>
      rw [TypeExpr.nestingOfList, TypeExpr.nestingOfList, Nat.max_zero] at deep
      obtain ⟨before, found, isFirst, failed⟩ :=
        type_failsBeyond ending isType spelled deep rest
      exact ⟨before, found, isFirst, separated_eq_error_of_first failed⟩
  | @more first others expression expressions isType isRest =>
      obtain ⟨firstTokens, _, rfl, rfl, behind⟩ :=
        List.map_eq_append_iff.mp spelled
      obtain ⟨separator, restTokens, rfl, isSeparator, rfl⟩ :=
        List.map_eq_cons_iff.mp behind
      rw [List.append_assoc, List.cons_append]
      by_cases firstDeep : levels < expression.nesting
      · obtain ⟨before, found, isFirst, failed⟩ :=
          type_failsBeyond ending isType rfl firstDeep
            (separator :: (restTokens ++ rest))
        exact ⟨before, found, isFirst.append_right _,
          separated_eq_error_of_first failed⟩
      · -- The first type is read, so one of the others nests too deep.
        have firstBound := Nat.le_of_not_lt firstDeep
        have othersDeep : levels < TypeExpr.nestingOfList expressions := by
          rw [TypeExpr.nestingOfList] at deep
          omega
        obtain ⟨_, _, _, _, read⟩ :=
          type_complete isType rfl firstBound
            (show Follows ending (separator :: (restTokens ++ rest)) by
              simp [Follows, isSeparator])
        obtain ⟨before, found, isFirst, failed⟩ :=
          list_failsBeyond ending isRest rfl othersDeep rest
        have within := (isType.nestsWithin_iff levels).mpr firstBound
        exact ⟨firstTokens ++ separator :: before, found,
          isFirst.append_left_cons isType.openBrackets_eq within
            (Or.inl isSeparator),
          separated_eq_error_of_others read isSeparator failed⟩

end

end Parser

/-! ## Depth -/

namespace TypeExpr

theorem depthOfList_le_iff
    {types : List TypeExpr}
    {bound : Nat} :
    depthOfList types ≤ bound ↔ ∀ type ∈ types, type.depth ≤ bound := by
  induction types with
  | nil => simp [depthOfList]
  | cons type rest hypothesis =>
      rw [depthOfList, Nat.max_le, hypothesis, List.forall_mem_cons]

theorem depthOfList_append
    (left right : List TypeExpr) :
    depthOfList (left ++ right) =
      max (depthOfList left) (depthOfList right) := by
  induction left with
  | nil => simp [depthOfList]
  | cons type rest hypothesis =>
      rw [List.cons_append, depthOfList, depthOfList, hypothesis,
        Nat.max_assoc]

/-- Depth is counted from the children. -/
theorem depth_eq (type : TypeExpr) :
    type.depth = 1 + depthOfList type.children := by
  cases type with
  | simple name => rfl
  | generic name arguments => rw [depth, children]
  | tuple name elements => rw [depth, children]
  | mapping name keys values => rw [depth, children, depthOfList_append]

theorem depthOfList_map
    {change : TypeExpr → TypeExpr}
    {types : List TypeExpr}
    (same : ∀ type ∈ types, (change type).depth = type.depth) :
    depthOfList (types.map change) = depthOfList types := by
  induction types with
  | nil => rfl
  | cons type rest hypothesis =>
      obtain ⟨sameType, sameRest⟩ := List.forall_mem_cons.mp same
      rw [List.map_cons, depthOfList, depthOfList, sameType,
        hypothesis sameRest]

/-- A correction moves children, but none of them to another level. -/
theorem depth_correct (type : TypeExpr) :
    type.correct.depth = type.depth := by
  induction type using induction_on_children with
  | step type hypothesis =>
      rw [depth_eq, children_correct, depthOfList_map hypothesis, ← depth_eq]

/-- No node is deeper than the whole. -/
theorem depth_le_of_mem_nodes
    {type node : TypeExpr}
    (member : node ∈ type.nodes) :
    node.depth ≤ type.depth := by
  induction type using induction_on_children with
  | step type hypothesis =>
      rw [nodes_eq] at member
      rcases List.mem_cons.mp member with rfl | below
      · exact Nat.le_refl _
      · obtain ⟨child, isChild, inChild⟩ := List.mem_flatMap.mp below
        have bound := hypothesis child isChild inChild
        have inLevel := depthOfList_le_iff.mp (Nat.le_refl _) child isChild
        rw [depth_eq type]
        omega

mutual

/-- A name inside of all brackets adds one level to them. -/
theorem depth_le_nesting :
    (type : TypeExpr) →
    type.depth ≤ type.nesting + 1
  | simple _ => Nat.le_refl 1
  | generic _ arguments => by
      have bound := depthOfList_le_nestingOfList arguments
      rw [depth, nesting]
      omega
  | tuple _ elements => by
      have bound := depthOfList_le_nestingOfList elements
      rw [depth, nesting]
      omega
  | mapping _ keys values => by
      have keysBound := depthOfList_le_nestingOfList keys
      have valuesBound := depthOfList_le_nestingOfList values
      rw [depth, nesting]
      omega

theorem depthOfList_le_nestingOfList :
    (types : List TypeExpr) →
    depthOfList types ≤ nestingOfList types + 1
  | [] => Nat.zero_le _
  | type :: rest => by
      have bound := depth_le_nesting type
      have restBound := depthOfList_le_nestingOfList rest
      rw [depthOfList, nestingOfList]
      omega

end

end TypeExpr

/-! ## Whole texts -/

/-- A token that opens a bracket stands where its bracket does, behind the text
of the tokens in front of it. -/
theorem TokensAt.exists_bracket
    {text : List Char}
    {before after : List Token}
    {opening : Token}
    (tokensAt : TokensAt 0 text (before ++ opening :: after))
    {bracket : Bracket}
    (isOpening : opening.kind = .opening bracket) :
    ∃ left right, text = left ++ bracket.openChar :: right ∧
      TokensAt 0 left before ∧ opening.start = byteLength left := by
  have lexed := Lexed.ofChars_of_tokensAt tokensAt
  obtain ⟨left, right, rfl, leftAt, remains⟩ :=
    Lexed.exists_cut (congrArg Lexed.tokens lexed)
  generalize (Lexed.ofChars 0 (left ++ right)).ending = ending at remains
  generalize position : 0 + byteLength left = start at remains
  cases remains with
  | token isLexeme =>
      obtain rfl := isOpening
      cases isLexeme with
      | opening =>
          rw [Nat.zero_add] at position
          exact ⟨left, _, rfl, leftAt, position.symm⟩

namespace TypeExpr

/-- The ceiling of nesting is exact.  A text whose tokens derive type
expressions is read as these if no bracket of it is beyond level 64; no node of
them has a depth of more than 65 then, and no correction changes a depth.
Otherwise the text is not read, and the error stands at the leftmost bracket at
level 65, whatever is in front of it. -/
theorem parse_nesting_ceiling
    {text : List Char}
    {tokens : List Token}
    {types : List TypeExpr}
    (tokensAt : TokensAt 0 text tokens)
    (isList : IsList (tokens.map Token.kind) types) :
    (NestsWithin 64 (tokens.map Token.kind) →
      parse text = .ok types ∧
        ∀ type ∈ types, ∀ node ∈ type.nodes,
          node.depth ≤ 65 ∧ node.correct.depth = node.depth) ∧
    (¬ NestsWithin 64 (tokens.map Token.kind) →
      ∃ before opening bracket left right,
        IsFirstBeyond 64 tokens before opening ∧
        opening.kind = .opening bracket ∧
        text = left ++ bracket.openChar :: right ∧ TokensAt 0 left before ∧
        ∃ error, parse text = .error error ∧ error.cause = .tooDeep ∧
          error.offset = byteLength left ∧
          error.message = "type nesting exceeds 64 levels") := by
  have within_iff := isList.nestsWithin_iff 64
  constructor
  · intro within
    have bound := within_iff.mp within
    refine ⟨parse_of_isList tokensAt isList bound, ?_⟩
    intro type isType node isNode
    refine ⟨?_, depth_correct node⟩
    have nodeDepth := depth_le_of_mem_nodes isNode
    have typeDepth := depth_le_nesting type
    have typeNesting := nestingOfList_le_iff.mp bound type isType
    omega
  · intro beyond
    have deep : maxNesting < nestingOfList types :=
      Nat.lt_of_not_le fun bound => beyond (within_iff.mpr bound)
    obtain ⟨before, opening, isFirst, failed⟩ :=
      Parser.list_failsBeyond (.endOfText (0 + byteLength text)) isList rfl
        deep []
    rw [List.append_nil] at failed
    obtain ⟨bracket, isOpening⟩ := isFirst.isOpening
    obtain ⟨after, rfl⟩ := isFirst.split
    obtain ⟨left, right, textEq, leftAt, start⟩ :=
      tokensAt.exists_bracket isOpening
    refine ⟨before, opening, bracket, left, right, isFirst, isOpening, textEq,
      leftAt, ⟨.tooDeep, opening.start⟩, ?_, rfl, start, rfl⟩
    have notBlank : ¬ ∀ c ∈ text, isBlank c = true := by
      intro blanks
      exact absurd (tokensAt.unique (.of_blanks blanks 0)) (by simp)
    rw [parse_eq_error_iff, parseAlternatives,
      if_neg (by rwa [List.all_eq_true]), Lexed.ofChars_of_tokensAt tokensAt]
    simp only [failed]

end TypeExpr

/-! ## One level more -/

/-- Parentheses without a name, behind a blank, inside of as many angle brackets
as are told. -/
def wrapped : Nat → List Char
  | 0 => " (é)".toList
  | levels + 1 => "A<".toList ++ wrapped levels ++ ['>']

/-- The kinds of the tokens of such a text. -/
def wrappedKinds : Nat → List TokenKind
  | 0 => [.opening .paren, .name "é", .closing .paren]
  | levels + 1 =>
      [.name "A"] ++
        .opening .angle :: (wrappedKinds levels ++ [.closing .angle])

/-- The type that such a text writes. -/
def wrappedType : Nat → TypeExpr
  | 0 => .tuple "" [.simple "é"]
  | levels + 1 => .generic "A" [wrappedType levels]

theorem isType_wrapped (levels : Nat) :
    IsType (wrappedKinds levels) (wrappedType levels) := by
  induction levels with
  | zero => exact .tuple .elided (.one (.simple "é"))
  | succ levels hypothesis => exact .generic (.written "A") (.one hypothesis)

theorem nesting_wrappedType (levels : Nat) :
    (wrappedType levels).nesting = levels + 1 := by
  induction levels with
  | zero => rfl
  | succ levels hypothesis =>
      simp [wrappedType, TypeExpr.nesting, TypeExpr.nestingOfList, hypothesis]

/-- With 63 angle brackets the parentheses are at the last level that is
allowed.  With one more the error stands at the parentheses, behind the
blank. -/
theorem parse_nesting_ceiling_wrapped :
    TypeExpr.parse (wrapped 63) = .ok [wrappedType 63] ∧
      (wrappedType 63).depth ≤ 65 ∧
      TypeExpr.parse (wrapped 64) = .error ⟨.tooDeep, 129⟩ := by
  let tokens (levels : Nat) : List Token :=
    (Lexed.ofChars 0 (wrapped levels)).tokens
  have lexed : ∀ levels ∈ [63, 64],
      (tokens levels).map Token.kind = wrappedKinds levels ∧
        (Lexed.ofChars 0 (wrapped levels)).ending =
          .endOfText (byteLength (wrapped levels)) := by
    decide +kernel
  have tokensAt (levels : Nat) (member : levels ∈ [63, 64]) :
      TokensAt 0 (wrapped levels) (tokens levels) :=
    Lexed.tokensAt_of_endOfText (lexed levels member).2
  have isList (levels : Nat) (member : levels ∈ [63, 64]) :
      IsList ((tokens levels).map Token.kind) [wrappedType levels] := by
    rw [(lexed levels member).1]
    exact .one (isType_wrapped levels)
  have within_iff (levels : Nat) (member : levels ∈ [63, 64]) :
      NestsWithin 64 ((tokens levels).map Token.kind) ↔ levels < 64 := by
    rw [(lexed levels member).1]
    have levelsIff := (isType_wrapped levels).nestsWithin_iff 64
    rwa [nesting_wrappedType] at levelsIff
  have found : (TypeExpr.parse (wrapped 64)).map List.length =
      .error ⟨.tooDeep, 129⟩ := by
    decide +kernel
  have inside := (TypeExpr.parse_nesting_ceiling (tokensAt 63 (by decide))
    (isList 63 (by decide))).1 ((within_iff 63 (by decide)).mpr (by decide))
  have outside := (TypeExpr.parse_nesting_ceiling (tokensAt 64 (by decide))
    (isList 64 (by decide))).2 (mt (within_iff 64 (by decide)).mp (by decide))
  obtain ⟨_, _, _, _, _, _, _, _, _, error, failed, _⟩ := outside
  refine ⟨inside.1, ?_, ?_⟩
  · exact (inside.2 _ List.mem_cons_self _
      (by rw [TypeExpr.nodes_eq]; exact List.mem_cons_self)).1
  · rw [failed] at found ⊢
    rw [Except.error.inj found]

end DocLint
