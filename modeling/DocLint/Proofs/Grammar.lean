import DocLint.Proofs.Tokenizing
import DocLint.TypeExpr.Parser

/-!
# The grammar of type expressions

`IsType` and `IsList` are the grammar, as derivations over kinds of tokens.  The
parser reads along a list of tokens and returns what is left of it; it is sound
when the part it has read derives what it returns, and complete when it reads
every part that derives something, provided that what follows cannot belong to
that part.  Both hold at every number of levels that brackets may nest, which
gives the exact reading of whole texts.
-/

namespace DocLint

open Text

/-! ## Derivations -/

/-- The name in front of brackets, left out or written. -/
inductive IsFront : List TokenKind → String → Prop
  | elided : IsFront [] ""
  | written (name : String) : IsFront [.name name] name

mutual

/-- The tokens of a type expression. -/
inductive IsType : List TokenKind → TypeExpr → Prop
  | simple (name : String) : IsType [.name name] (.simple name)
  | generic {front inner : List TokenKind} {name : String}
      {arguments : List TypeExpr} :
      IsFront front name → IsList inner arguments →
      IsType (front ++ .opening .angle :: (inner ++ [.closing .angle]))
        (.generic name arguments)
  | tuple {front inner : List TokenKind} {name : String}
      {elements : List TypeExpr} :
      IsFront front name → IsList inner elements →
      IsType (front ++ .opening .paren :: (inner ++ [.closing .paren]))
        (.tuple name elements)
  | mapping {front left right : List TokenKind} {name : String}
      {keys values : List TypeExpr} :
      IsFront front name → IsList left keys → IsList right values →
      IsType (front ++ .opening .brace ::
          (left ++ .arrow :: right ++ [.closing .brace]))
        (.mapping name keys values)

/-- The tokens of type expressions divided by separators, one at least. -/
inductive IsList : List TokenKind → List TypeExpr → Prop
  | one {kinds : List TokenKind} {type : TypeExpr} :
      IsType kinds type → IsList kinds [type]
  | more {kinds rest : List TokenKind} {type : TypeExpr}
      {types : List TypeExpr} :
      IsType kinds type → IsList rest types →
      IsList (kinds ++ .separator :: rest) (type :: types)

end

namespace TypeExpr

mutual

/-- How many levels deep the brackets of a type expression nest. -/
def nesting : TypeExpr → Nat
  | simple _ => 0
  | generic _ arguments => nestingOfList arguments + 1
  | tuple _ elements => nestingOfList elements + 1
  | mapping _ keys values => max (nestingOfList keys) (nestingOfList values) + 1

/-- The deepest nesting in a list. -/
def nestingOfList : List TypeExpr → Nat
  | [] => 0
  | type :: rest => max (nesting type) (nestingOfList rest)

end

end TypeExpr

/-- An alternative that was read from these tokens, with its positions. -/
structure Covers (segment : List Token) (alternative : Alternative) : Prop where
  derived : IsType (segment.map Token.kind) alternative.type
  start : segment.head?.map Token.start = some alternative.start
  stop : segment.getLast?.map Token.stop = some alternative.stop

/-- Alternatives that were read from these tokens, a separator between two. -/
inductive Listed : List Token → List Alternative → Prop
  | one {segment : List Token} {alternative : Alternative} :
      Covers segment alternative → Listed segment [alternative]
  | more {segment rest : List Token} {separator : Token}
      {alternative : Alternative} {alternatives : List Alternative} :
      Covers segment alternative → separator.kind = .separator →
      Listed rest alternatives →
      Listed (segment ++ separator :: rest) (alternative :: alternatives)

theorem Listed.isList
    {tokens : List Token}
    {alternatives : List Alternative}
    (listed : Listed tokens alternatives) :
    IsList (tokens.map Token.kind) (alternatives.map Alternative.type) := by
  induction listed with
  | one covers => exact .one covers.derived
  | more covers isSeparator _ hypothesis =>
      simp only [List.map_append, List.map_cons, isSeparator]
      exact .more covers.derived hypothesis

/-! ## Soundness -/

namespace Parser

/-- Two readings in sequence succeed when each of them does. -/
theorem bind_eq_ok
    {ε α β : Type}
    {first : Except ε α}
    {next : α → Except ε β}
    {result : β} :
    (first >>= next) = .ok result ↔
      ∃ value, first = .ok value ∧ next value = .ok result := by
  cases first with
  | error error => simp [bind, Except.bind]
  | ok value => simp [bind, Except.bind]

theorem expect_eq_ok
    {ending : Ending}
    {wanted : TokenKind}
    {bracket : Bracket}
    {tokens : List Token}
    {stop : Nat}
    {rest : List Token}
    {less : rest.length < tokens.length}
    (read : expect ending wanted bracket tokens = .ok (stop, ⟨rest, less⟩)) :
    ∃ token, tokens = token :: rest ∧ token.kind = wanted ∧
      token.stop = stop := by
  cases tokens with
  | nil => exact absurd read (by simp [expect])
  | cons token more =>
      simp only [expect] at read
      split at read
      · rename_i isWanted
        cases read
        exact ⟨token, rfl, isWanted, rfl⟩
      · split at read
        · exact absurd read (by simp)
        · split at read <;> exact absurd read (by simp)

/-- A reader of single alternatives that returns what it has read. -/
def SoundItem
    (levels : Nat)
    (item : (tokens : List Token) → Outcome Alternative tokens) : Prop :=
  ∀ (tokens rest : List Token) (less : rest.length < tokens.length)
    (alternative : Alternative),
    item tokens = .ok (alternative, ⟨rest, less⟩) →
    ∃ segment, tokens = segment ++ rest ∧ Covers segment alternative ∧
      alternative.type.nesting ≤ levels

theorem separated_sound
    {ending : Ending}
    {levels : Nat}
    {item : (tokens : List Token) → Outcome Alternative tokens}
    (sound : SoundItem levels item)
    {tokens rest : List Token}
    {less : rest.length < tokens.length}
    {alternatives : List Alternative}
    (read : separated ending item tokens = .ok (alternatives, ⟨rest, less⟩)) :
    ∃ segment, tokens = segment ++ rest ∧ Listed segment alternatives ∧
      TypeExpr.nestingOfList (alternatives.map Alternative.type) ≤ levels ∧
      (rest = [] → ∃ stop, ending = .endOfText stop) := by
  fun_induction separated ending item tokens generalizing alternatives with
  | case1 tokens error failed => exact absurd read (by simp)
  | case2 tokens first shorter itemRead =>
      rename_i ended
      cases read
      obtain ⟨segment, cut, covers, bound⟩ := sound _ _ _ _ itemRead
      refine ⟨segment, cut, .one covers, ?_, fun _ => ⟨_, ended⟩⟩
      simpa [TypeExpr.nestingOfList] using bound
  | case3 => exact absurd read (by simp)
  | case4 => exact absurd read (by simp)
  | case5 tokens first token more shorter itemRead isSeparator others
      remaining less othersRead hypothesis =>
      cases read
      obtain ⟨segment, cut, covers, bound⟩ := sound _ _ _ _ itemRead
      obtain ⟨further, furtherCut, listed, furtherBound, ended⟩ :=
        hypothesis othersRead
      refine ⟨segment ++ token :: further, ?_,
        .more covers isSeparator listed, ?_, ended⟩
      · rw [cut, furtherCut, List.append_assoc, List.cons_append]
      · simp only [List.map_cons, TypeExpr.nestingOfList]
        omega
  | case6 tokens first token more shorter itemRead notSeparator =>
      cases read
      obtain ⟨segment, cut, covers, bound⟩ := sound _ _ _ _ itemRead
      refine ⟨segment, cut, .one covers, ?_, fun empty => ?_⟩
      · simpa [TypeExpr.nestingOfList] using bound
      · exact absurd empty (by simp)

/-- What is read between brackets completes a type expression, whether a name
stands in front of them or not. -/
structure Closed
    (levels : Nat)
    (name : String)
    (bracket : Bracket)
    (segment : List Token)
    (type : TypeExpr)
    (stop : Nat) : Prop where
  derived : ∀ front, IsFront front name →
    IsType (front ++ .opening bracket :: segment.map Token.kind) type
  stop : segment.getLast?.map Token.stop = some stop
  bound : type.nesting ≤ levels

theorem bracketed_sound
    {ending : Ending}
    {levels : Nat}
    {item : (tokens : List Token) → Outcome Alternative tokens}
    (sound : SoundItem levels item)
    {name : String}
    {bracket : Bracket}
    {tokens : List Token}
    {type : TypeExpr}
    {stop : Nat}
    {rest : List Token}
    {less : rest.length < tokens.length}
    (read : bracketed ending item name bracket tokens =
      .ok ((type, stop), ⟨rest, less⟩)) :
    ∃ segment, tokens = segment ++ rest ∧
      Closed (levels + 1) name bracket segment type stop := by
  unfold bracketed at read
  obtain ⟨⟨first, inner, less⟩, firstRead, read⟩ := bind_eq_ok.mp read
  obtain ⟨segment, cut, listed, bound, _⟩ := separated_sound sound firstRead
  subst cut
  cases bracket with
  | angle =>
      obtain ⟨⟨found, last, _⟩, closing, read⟩ := bind_eq_ok.mp read
      obtain ⟨token, rfl, isClosing, rfl⟩ := expect_eq_ok closing
      cases read
      refine ⟨segment ++ [token], by simp, ?_, by simp, ?_⟩
      · intro front isFront
        simpa [isClosing] using IsType.generic isFront listed.isList
      · simpa [TypeExpr.nesting] using bound
  | paren =>
      obtain ⟨⟨found, last, _⟩, closing, read⟩ := bind_eq_ok.mp read
      obtain ⟨token, rfl, isClosing, rfl⟩ := expect_eq_ok closing
      cases read
      refine ⟨segment ++ [token], by simp, ?_, by simp, ?_⟩
      · intro front isFront
        simpa [isClosing] using IsType.tuple isFront listed.isList
      · simpa [TypeExpr.nesting] using bound
  | brace =>
      obtain ⟨⟨_, behindArrow, _⟩, arrow, read⟩ := bind_eq_ok.mp read
      obtain ⟨arrowToken, rfl, isArrow, rfl⟩ := expect_eq_ok arrow
      obtain ⟨⟨second, behind, _⟩, secondRead, read⟩ := bind_eq_ok.mp read
      obtain ⟨values, cut, valuesListed, valuesBound, _⟩ :=
        separated_sound sound secondRead
      subst cut
      obtain ⟨⟨found, last, _⟩, closing, read⟩ := bind_eq_ok.mp read
      obtain ⟨token, rfl, isClosing, rfl⟩ := expect_eq_ok closing
      cases read
      refine ⟨segment ++ arrowToken :: values ++ [token], by simp, ?_,
        by rw [List.getLast?_concat]; rfl, ?_⟩
      · intro front isFront
        simpa [isArrow, isClosing] using
          IsType.mapping isFront listed.isList valuesListed.isList
      · simp only [TypeExpr.nesting]
        omega

theorem getLast?_stop_cons
    (token : Token)
    {segment : List Token}
    {stop : Nat}
    (last : segment.getLast?.map Token.stop = some stop) :
    (token :: segment).getLast?.map Token.stop = some stop := by
  cases segment with
  | nil => exact absurd last (by simp)
  | cons next more => rwa [List.getLast?_cons_cons]

/-- A reader of collections, from behind their opening bracket, that returns
what it has read. -/
def SoundCollection
    (levels : Nat)
    (collection : (name : String) → (start : Nat) → Bracket → (offset : Nat) →
      (inner : List Token) → Outcome Alternative inner) : Prop :=
  ∀ (name : String) (start : Nat) (bracket : Bracket) (offset : Nat)
    (inner rest : List Token) (less : rest.length < inner.length)
    (alternative : Alternative),
    collection name start bracket offset inner =
      .ok (alternative, ⟨rest, less⟩) →
    ∃ segment, inner = segment ++ rest ∧ alternative.start = start ∧
      Closed levels name bracket segment alternative.type alternative.stop

theorem typeWith_sound
    {ending : Ending}
    {levels : Nat}
    {collection : (name : String) → (start : Nat) → Bracket →
      (offset : Nat) → (inner : List Token) → Outcome Alternative inner}
    (sound : SoundCollection levels collection) :
    SoundItem levels (typeWith ending collection) := by
  intro tokens rest less alternative read
  unfold typeWith at read
  split at read
  · exact absurd read (by simp)
  · -- The name is the last token.
    rename_i name start stop
    split at read
    · cases read
      exact ⟨[⟨.name name, start, stop⟩], rfl, ⟨.simple name, rfl, rfl⟩,
        Nat.zero_le _⟩
    · exact absurd read (by simp)
  · rename_i name start stop token more
    split at read
    · -- The name stands in front of brackets.
      rename_i bracket opening
      obtain ⟨⟨found, behind, _⟩, collectionRead, read⟩ := bind_eq_ok.mp read
      obtain ⟨segment, rfl, startEq, closed⟩ :=
        sound _ _ _ _ _ _ _ _ collectionRead
      cases read
      refine ⟨⟨.name name, start, stop⟩ :: token :: segment, rfl,
        ⟨?_, by simp [startEq], ?_⟩, closed.bound⟩
      · simpa [opening] using closed.derived _ (.written name)
      · exact getLast?_stop_cons _ (getLast?_stop_cons _ closed.stop)
    · -- Another token ends the type.
      cases read
      exact ⟨[⟨.name name, start, stop⟩], rfl, ⟨.simple name, rfl, rfl⟩,
        Nat.zero_le _⟩
  · rename_i bracket start stop inner
    obtain ⟨⟨found, behind, _⟩, collectionRead, read⟩ := bind_eq_ok.mp read
    obtain ⟨segment, rfl, startEq, closed⟩ :=
      sound _ _ _ _ _ _ _ _ collectionRead
    cases read
    refine ⟨⟨.opening bracket, start, stop⟩ :: segment, rfl,
      ⟨?_, by simp [startEq], ?_⟩, closed.bound⟩
    · simpa using closed.derived _ .elided
    · exact getLast?_stop_cons _ closed.stop
  · exact absurd read (by simp)

theorem collection_sound
    (ending : Ending)
    (levels : Nat) :
    SoundCollection levels (collection ending levels) := by
  induction levels with
  | zero =>
      intro name start bracket offset inner rest less alternative read
      exact absurd read (by simp [collection])
  | succ levels hypothesis =>
      intro name start bracket offset inner rest less alternative read
      rw [collection] at read
      obtain ⟨⟨⟨type, stop⟩, behind⟩, bracketedRead, read⟩ :=
        bind_eq_ok.mp read
      cases read
      obtain ⟨segment, cut, closed⟩ :=
        bracketed_sound (typeWith_sound hypothesis) bracketedRead
      exact ⟨segment, cut, rfl, closed⟩

/-- One type is read from tokens that derive it. -/
theorem type_sound
    (ending : Ending)
    (levels : Nat) :
    SoundItem levels (type ending levels) :=
  typeWith_sound (collection_sound ending levels)

/-! ## Completeness -/

/-- What follows cannot open brackets behind a name, and the text does not break
off there. -/
def Follows (ending : Ending) : List Token → Prop
  | [] => ∃ stop, ending = .endOfText stop
  | token :: _ => ∀ bracket, token.kind ≠ .opening bracket

/-- What follows cannot go on with a list either. -/
def Stops (ending : Ending) : List Token → Prop
  | [] => ∃ stop, ending = .endOfText stop
  | token :: _ =>
      (∀ bracket, token.kind ≠ .opening bracket) ∧ token.kind ≠ .separator

theorem Stops.follows
    {ending : Ending}
    {rest : List Token}
    (stops : Stops ending rest) :
    Follows ending rest := by
  cases rest with
  | nil => exact stops
  | cons => exact stops.1

theorem expect_complete
    (ending : Ending)
    (bracket : Bracket)
    {wanted : TokenKind}
    {token : Token}
    (isWanted : token.kind = wanted)
    (rest : List Token) :
    expect ending wanted bracket (token :: rest) =
      .ok (token.stop, ⟨rest, Nat.lt_succ_self _⟩) := by
  simp [expect, isWanted]

section Brackets

variable {ending : Ending}
variable {item : (tokens : List Token) → Outcome Alternative tokens}
variable {inner rest : List Token}
variable {alternatives : List Alternative}
variable {closing : Token}

theorem bracketed_angle_complete
    {less : (closing :: rest).length < inner.length}
    (read : separated ending item inner =
      .ok (alternatives, ⟨closing :: rest, less⟩))
    (isClosing : closing.kind = .closing .angle)
    (name : String) :
    ∃ shorter, bracketed ending item name .angle inner =
      .ok ((.generic name (alternatives.map Alternative.type), closing.stop),
        ⟨rest, shorter⟩) := by
  refine ⟨Nat.lt_trans (Nat.lt_succ_self _) less, ?_⟩
  refine bind_eq_ok.mpr ⟨_, read, ?_⟩
  exact bind_eq_ok.mpr ⟨_, expect_complete ending .angle isClosing rest, rfl⟩

theorem bracketed_paren_complete
    {less : (closing :: rest).length < inner.length}
    (read : separated ending item inner =
      .ok (alternatives, ⟨closing :: rest, less⟩))
    (isClosing : closing.kind = .closing .paren)
    (name : String) :
    ∃ shorter, bracketed ending item name .paren inner =
      .ok ((.tuple name (alternatives.map Alternative.type), closing.stop),
        ⟨rest, shorter⟩) := by
  refine ⟨Nat.lt_trans (Nat.lt_succ_self _) less, ?_⟩
  refine bind_eq_ok.mpr ⟨_, read, ?_⟩
  exact bind_eq_ok.mpr ⟨_, expect_complete ending .paren isClosing rest, rfl⟩

theorem bracketed_brace_complete
    {arrow : Token}
    {second : List Token}
    {values : List Alternative}
    {less : (arrow :: second).length < inner.length}
    {secondLess : (closing :: rest).length < second.length}
    (read : separated ending item inner =
      .ok (alternatives, ⟨arrow :: second, less⟩))
    (isArrow : arrow.kind = .arrow)
    (secondRead : separated ending item second =
      .ok (values, ⟨closing :: rest, secondLess⟩))
    (isClosing : closing.kind = .closing .brace)
    (name : String) :
    ∃ shorter, bracketed ending item name .brace inner =
      .ok ((.mapping name (alternatives.map Alternative.type)
        (values.map Alternative.type), closing.stop), ⟨rest, shorter⟩) := by
  refine ⟨by simp only [List.length_cons] at less secondLess; omega, ?_⟩
  refine bind_eq_ok.mpr ⟨_, read, ?_⟩
  refine bind_eq_ok.mpr ⟨_, expect_complete ending .brace isArrow second, ?_⟩
  refine bind_eq_ok.mpr ⟨_, secondRead, ?_⟩
  exact bind_eq_ok.mpr ⟨_, expect_complete ending .brace isClosing rest, rfl⟩

end Brackets

/-- Brackets that can be read make a type, behind a written name or alone. -/
theorem type_complete_of_bracketed
    {ending : Ending}
    {levels : Nat}
    {name : String}
    {bracket : Bracket}
    {inner rest : List Token}
    {expression : TypeExpr}
    {stop : Nat}
    {less : rest.length < inner.length}
    (read : bracketed ending (type ending levels) name bracket inner =
      .ok ((expression, stop), ⟨rest, less⟩))
    {opening : Token}
    (isOpening : opening.kind = .opening bracket)
    {front : List Token}
    (isFront : IsFront (front.map Token.kind) name) :
    ∃ start shorter,
      (front ++ [opening]).head?.map Token.start = some start ∧
      type ending (levels + 1) (front ++ opening :: inner) =
        .ok (⟨expression, start, stop⟩, ⟨rest, shorter⟩) := by
  have collectionRead : ∀ start offset,
      collection ending (levels + 1) name start bracket offset inner =
        .ok (⟨expression, start, stop⟩, ⟨rest, less⟩) := by
    intro start offset
    rw [collection]
    exact bind_eq_ok.mpr ⟨_, read, rfl⟩
  obtain ⟨kind, start, openingStop⟩ := opening
  obtain rfl : kind = .opening bracket := isOpening
  generalize kinds : front.map Token.kind = spelled at isFront
  cases isFront with
  | elided =>
      obtain rfl := List.map_eq_nil_iff.mp kinds
      refine ⟨start, Nat.lt_succ_of_lt less, rfl, ?_⟩
      exact bind_eq_ok.mpr ⟨_, collectionRead start start, rfl⟩
  | written =>
      obtain ⟨⟨_, nameStart, nameStop⟩, rfl, rfl⟩ :=
        List.map_eq_singleton_iff.mp kinds
      refine ⟨nameStart, Nat.lt_succ_of_lt (Nat.lt_succ_of_lt less), rfl, ?_⟩
      exact bind_eq_ok.mpr ⟨_, collectionRead nameStart start, rfl⟩

/-- What a reader has to return on a segment that derives a type. -/
def Reads
    (ending : Ending)
    (levels : Nat)
    (segment rest : List Token)
    (expression : TypeExpr) : Prop :=
  ∃ alternative shorter, alternative.type = expression ∧
    Covers segment alternative ∧
    type ending levels (segment ++ rest) = .ok (alternative, ⟨rest, shorter⟩)

theorem reads_of_bracketed
    {ending : Ending}
    {levels : Nat}
    {name : String}
    {bracket : Bracket}
    {front body rest : List Token}
    {opening closing : Token}
    {expression : TypeExpr}
    (derived : IsType ((front ++ opening :: (body ++ [closing])).map Token.kind)
      expression)
    (isFront : IsFront (front.map Token.kind) name)
    (isOpening : opening.kind = .opening bracket)
    (read : ∃ less,
      bracketed ending (type ending levels) name bracket
          (body ++ closing :: rest) =
        .ok ((expression, closing.stop), ⟨rest, less⟩)) :
    Reads ending (levels + 1) (front ++ opening :: (body ++ [closing])) rest
      expression := by
  obtain ⟨less, read⟩ := read
  obtain ⟨start, shorter, startEq, typeRead⟩ :=
    type_complete_of_bracketed read isOpening isFront
  have joined : front ++ opening :: (body ++ [closing]) ++ rest =
      front ++ opening :: (body ++ closing :: rest) := by
    simp
  rw [Reads, joined]
  refine ⟨⟨expression, start, closing.stop⟩, shorter, rfl,
    ⟨derived, ?_, ?_⟩, typeRead⟩
  · cases front with
    | nil => exact startEq
    | cons first more => exact startEq
  · rw [← List.cons_append, ← List.append_assoc, List.getLast?_concat]
    rfl

theorem type_name_complete
    {ending : Ending}
    {rest : List Token}
    (follows : Follows ending rest)
    (levels : Nat)
    (name : String)
    (start stop : Nat) :
    type ending levels (⟨.name name, start, stop⟩ :: rest) =
      .ok (⟨.simple name, start, stop⟩, ⟨rest, Nat.lt_succ_self _⟩) := by
  cases rest with
  | nil =>
      obtain ⟨_, rfl⟩ := follows
      rfl
  | cons token more =>
      simp only [type, typeWith]
      split
      · rename_i bracket opening
        exact absurd opening (follows bracket)
      · rfl

theorem separated_last
    {ending : Ending}
    {item : (tokens : List Token) → Outcome Alternative tokens}
    {tokens rest : List Token}
    {first : Alternative}
    {less : rest.length < tokens.length}
    (read : item tokens = .ok (first, ⟨rest, less⟩))
    (stops : Stops ending rest) :
    separated ending item tokens = .ok ([first], ⟨rest, less⟩) := by
  cases rest with
  | nil =>
      obtain ⟨_, rfl⟩ := stops
      simp [separated, read]
  | cons token more =>
      simp [separated, read, stops.2]

theorem separated_more
    {ending : Ending}
    {item : (tokens : List Token) → Outcome Alternative tokens}
    {tokens more rest : List Token}
    {first : Alternative}
    {others : List Alternative}
    {separator : Token}
    {less : (separator :: more).length < tokens.length}
    {restLess : rest.length < more.length}
    (read : item tokens = .ok (first, ⟨separator :: more, less⟩))
    (isSeparator : separator.kind = .separator)
    (othersRead : separated ending item more = .ok (others, ⟨rest, restLess⟩)) :
    ∃ shorter, separated ending item tokens =
      .ok (first :: others, ⟨rest, shorter⟩) := by
  refine ⟨by simp only [List.length_cons] at less; omega, ?_⟩
  rw [separated, read]
  simp [isSeparator, othersRead]

/-- Tokens that spell brackets with a front are cut at the brackets. -/
theorem exists_bracketed
    {segment : List Token}
    {front inner : List TokenKind}
    {opening closing : TokenKind}
    (spelled : segment.map Token.kind = front ++ opening :: (inner ++ [closing])) :
    ∃ frontTokens first body last,
      segment = frontTokens ++ first :: (body ++ [last]) ∧
      frontTokens.map Token.kind = front ∧ first.kind = opening ∧
      body.map Token.kind = inner ∧ last.kind = closing := by
  obtain ⟨frontTokens, _, rfl, frontSpelled, behindFront⟩ :=
    List.map_eq_append_iff.mp spelled
  obtain ⟨first, _, rfl, isOpening, behindOpening⟩ :=
    List.map_eq_cons_iff.mp behindFront
  obtain ⟨body, _, rfl, bodySpelled, behindBody⟩ :=
    List.map_eq_append_iff.mp behindOpening
  obtain ⟨last, rfl, isClosing⟩ := List.map_eq_singleton_iff.mp behindBody
  exact ⟨frontTokens, first, body, last, rfl, frontSpelled, isOpening,
    bodySpelled, isClosing⟩

/-! A derivation is followed by induction on it, types and lists at once.  Each
pair of brackets takes one of the levels that are left. -/

mutual

/-- Every segment that derives a type is read as that type. -/
theorem type_complete
    {ending : Ending}
    {kinds : List TokenKind}
    {expression : TypeExpr}
    (derived : IsType kinds expression)
    {levels : Nat}
    {segment rest : List Token}
    (spelled : segment.map Token.kind = kinds)
    (bound : expression.nesting ≤ levels)
    (follows : Follows ending rest) :
    Reads ending levels segment rest expression := by
  have whole := derived
  rw [← spelled] at whole
  cases derived with
  | simple name =>
      obtain ⟨⟨_, start, stop⟩, rfl, rfl⟩ :=
        List.map_eq_singleton_iff.mp spelled
      exact ⟨⟨.simple name, start, stop⟩, _, rfl, ⟨.simple name, rfl, rfl⟩,
        type_name_complete follows levels name start stop⟩
  | @generic front inner name arguments isFront isInner =>
      obtain ⟨frontTokens, opening, body, closing, rfl, rfl, isOpening, rfl,
        isClosing⟩ := exists_bracketed spelled
      obtain ⟨levels, rfl⟩ := Nat.exists_eq_add_one_of_ne_zero
        (Nat.ne_zero_of_lt bound)
      obtain ⟨alternatives, less, rfl, _, read⟩ :=
        list_complete isInner rfl (Nat.le_of_succ_le_succ bound)
          (show Stops ending (closing :: rest) by simp [Stops, isClosing])
      exact reads_of_bracketed whole isFront isOpening
        (bracketed_angle_complete read isClosing name)
  | @tuple front inner name elements isFront isInner =>
      obtain ⟨frontTokens, opening, body, closing, rfl, rfl, isOpening, rfl,
        isClosing⟩ := exists_bracketed spelled
      obtain ⟨levels, rfl⟩ := Nat.exists_eq_add_one_of_ne_zero
        (Nat.ne_zero_of_lt bound)
      obtain ⟨alternatives, less, rfl, _, read⟩ :=
        list_complete isInner rfl (Nat.le_of_succ_le_succ bound)
          (show Stops ending (closing :: rest) by simp [Stops, isClosing])
      exact reads_of_bracketed whole isFront isOpening
        (bracketed_paren_complete read isClosing name)
  | @mapping front left right name keys values isFront isLeft isRight =>
      obtain ⟨frontTokens, opening, body, closing, rfl, rfl, isOpening,
        bodySpelled, isClosing⟩ := exists_bracketed spelled
      obtain ⟨leftTokens, _, rfl, rfl, behindLeft⟩ :=
        List.map_eq_append_iff.mp bodySpelled
      obtain ⟨arrow, rightTokens, rfl, isArrow, rfl⟩ :=
        List.map_eq_cons_iff.mp behindLeft
      obtain ⟨levels, rfl⟩ := Nat.exists_eq_add_one_of_ne_zero
        (Nat.ne_zero_of_lt bound)
      obtain ⟨leftBound, rightBound⟩ :=
        Nat.max_le.mp (Nat.le_of_succ_le_succ bound)
      obtain ⟨second, _, rfl, _, rightRead⟩ :=
        list_complete isRight rfl rightBound
          (show Stops ending (closing :: rest) by simp [Stops, isClosing])
      obtain ⟨first, _, rfl, _, leftRead⟩ :=
        list_complete isLeft rfl leftBound
          (show Stops ending (arrow :: (rightTokens ++ closing :: rest)) by
            simp [Stops, isArrow])
      refine reads_of_bracketed whole isFront isOpening ?_
      rw [List.append_assoc, List.cons_append]
      exact bracketed_brace_complete leftRead isArrow rightRead isClosing name

/-- Every segment that derives a list is read as that list. -/
theorem list_complete
    {ending : Ending}
    {kinds : List TokenKind}
    {types : List TypeExpr}
    (derived : IsList kinds types)
    {levels : Nat}
    {segment rest : List Token}
    (spelled : segment.map Token.kind = kinds)
    (bound : TypeExpr.nestingOfList types ≤ levels)
    (stops : Stops ending rest) :
    ∃ alternatives shorter, alternatives.map Alternative.type = types ∧
      Listed segment alternatives ∧
      separated ending (type ending levels) (segment ++ rest) =
        .ok (alternatives, ⟨rest, shorter⟩) := by
  cases derived with
  | one isType =>
      simp only [TypeExpr.nestingOfList, Nat.max_zero] at bound
      obtain ⟨alternative, less, rfl, covers, read⟩ :=
        type_complete isType spelled bound stops.follows
      exact ⟨[alternative], less, rfl, .one covers,
        separated_last read stops⟩
  | @more first others expression expressions isType isRest =>
      simp only [TypeExpr.nestingOfList, Nat.max_le] at bound
      obtain ⟨firstTokens, _, rfl, firstSpelled, spelled⟩ :=
        List.map_eq_append_iff.mp spelled
      obtain ⟨separator, restTokens, rfl, isSeparator, restSpelled⟩ :=
        List.map_eq_cons_iff.mp spelled
      obtain ⟨alternative, less, rfl, covers, read⟩ :=
        type_complete isType firstSpelled bound.1
          (show Follows ending (separator :: (restTokens ++ rest)) by
            simp [Follows, isSeparator])
      obtain ⟨alternatives, _, rfl, listed, restRead⟩ :=
        list_complete isRest restSpelled bound.2 stops
      obtain ⟨shorter, wholeRead⟩ := separated_more read isSeparator restRead
      rw [List.append_assoc, List.cons_append]
      exact ⟨alternative :: alternatives, shorter, rfl,
        .more covers isSeparator listed, wholeRead⟩

end

/-- The tokens and the type of an alternative decide its positions. -/
theorem Covers.eq_of_type_eq
    {segment : List Token}
    {left right : Alternative}
    (leftCovers : Covers segment left)
    (rightCovers : Covers segment right)
    (same : left.type = right.type) :
    left = right := by
  have start := leftCovers.start.symm.trans rightCovers.start
  have stop := leftCovers.stop.symm.trans rightCovers.stop
  cases left
  cases right
  simp_all

/-- Alternatives that are listed in tokens are read from them. -/
theorem listed_complete
    {ending : Ending}
    {segment : List Token}
    {alternatives : List Alternative}
    (listed : Listed segment alternatives)
    {levels : Nat}
    {rest : List Token}
    (bound : TypeExpr.nestingOfList (alternatives.map Alternative.type) ≤ levels)
    (stops : Stops ending rest) :
    ∃ shorter, separated ending (type ending levels) (segment ++ rest) =
      .ok (alternatives, ⟨rest, shorter⟩) := by
  induction listed with
  | @one segment alternative covers =>
      simp only [List.map_cons, List.map_nil, TypeExpr.nestingOfList,
        Nat.max_zero] at bound
      obtain ⟨found, less, typeEq, foundCovers, read⟩ :=
        type_complete covers.derived rfl bound stops.follows
      obtain rfl := Covers.eq_of_type_eq foundCovers covers typeEq
      exact ⟨less, separated_last read stops⟩
  | @more segment others separator alternative alternatives covers isSeparator
      listed hypothesis =>
      simp only [List.map_cons, TypeExpr.nestingOfList, Nat.max_le] at bound
      obtain ⟨found, less, typeEq, foundCovers, read⟩ :=
        type_complete covers.derived rfl bound.1
          (show Follows ending (separator :: (others ++ rest)) by
            simp [Follows, isSeparator])
      obtain rfl := Covers.eq_of_type_eq foundCovers covers typeEq
      obtain ⟨_, othersRead⟩ := hypothesis bound.2
      rw [List.append_assoc, List.cons_append]
      exact separated_more read isSeparator othersRead

end Parser

/-! ## Whole texts -/

namespace TypeExpr

/-- Reading a text that is not blank gives exactly the alternatives that are
listed in its tokens. -/
theorem parseAlternatives_eq_ok_iff
    {text : List Char}
    (notBlank : ¬ ∀ c ∈ text, isBlank c = true)
    {alternatives : List Alternative} :
    parseAlternatives text = .ok alternatives ↔
      ∃ tokens, TokensAt 0 text tokens ∧ Listed tokens alternatives ∧
        nestingOfList (alternatives.map Alternative.type) ≤ maxNesting := by
  rw [parseAlternatives, if_neg (by rwa [List.all_eq_true])]
  constructor
  · intro parsed
    dsimp only at parsed
    split at parsed
    · exact absurd parsed (by simp)
    · rename_i found less read
      obtain rfl : found = alternatives := by simpa using parsed
      obtain ⟨segment, cut, listed, bound, ended⟩ :=
        Parser.separated_sound (Parser.type_sound _ _) read
      obtain ⟨stop, endOfText⟩ := ended rfl
      rw [List.append_nil] at cut
      refine ⟨segment, ?_, listed, bound⟩
      rw [← cut]
      exact Lexed.tokensAt_of_endOfText endOfText
    · split at parsed <;> exact absurd parsed (by simp)
  · rintro ⟨tokens, tokensAt, listed, bound⟩
    rw [Lexed.ofChars_of_tokensAt tokensAt]
    have complete := Parser.listed_complete listed bound
      (show Parser.Stops (.endOfText (0 + byteLength text)) [] from ⟨_, rfl⟩)
    rw [List.append_nil] at complete
    obtain ⟨shorter, read⟩ := complete
    simp only [read]

theorem parseAlternatives_of_blanks
    {text : List Char}
    (blanks : ∀ c ∈ text, isBlank c = true) :
    parseAlternatives text = .ok [] := by
  rw [parseAlternatives, if_pos (List.all_eq_true.mpr blanks)]

theorem parse_eq_ok_of_alternatives
    {text : List Char}
    {alternatives : List Alternative}
    (parsed : parseAlternatives text = .ok alternatives) :
    parse text = .ok (alternatives.map Alternative.type) := by
  rw [parse, parsed]
  rfl

theorem exists_alternatives_of_parse_eq_ok
    {text : List Char}
    {types : List TypeExpr}
    (parsed : parse text = .ok types) :
    ∃ alternatives, parseAlternatives text = .ok alternatives ∧
      alternatives.map Alternative.type = types := by
  unfold parse at parsed
  cases read : parseAlternatives text with
  | error error =>
      rw [read] at parsed
      exact absurd parsed (by simp [Except.map])
  | ok alternatives =>
      rw [read] at parsed
      exact ⟨alternatives, rfl, Except.ok.inj parsed⟩

theorem parse_eq_error_iff
    {text : List Char}
    {error : SyntaxError} :
    parse text = .error error ↔ parseAlternatives text = .error error := by
  unfold parse
  cases parseAlternatives text with
  | error other => simp [Except.map]
  | ok alternatives => simp [Except.map]

theorem isType_ne_nil
    {kinds : List TokenKind}
    {type : TypeExpr}
    (isType : IsType kinds type) :
    kinds ≠ [] := by
  cases isType <;> simp

theorem isList_ne_nil
    {kinds : List TokenKind}
    {types : List TypeExpr}
    (isList : IsList kinds types) :
    kinds ≠ [] := by
  cases isList with
  | one isType => exact isType_ne_nil isType
  | more => simp

theorem parse_of_blanks
    {text : List Char}
    (blanks : ∀ c ∈ text, isBlank c = true) :
    parse text = .ok [] :=
  parse_eq_ok_of_alternatives (parseAlternatives_of_blanks blanks)

/-- A text whose tokens derive types that do not nest too deep is read as these
types. -/
theorem parse_of_isList
    {text : List Char}
    {tokens : List Token}
    {types : List TypeExpr}
    (tokensAt : TokensAt 0 text tokens)
    (isList : IsList (tokens.map Token.kind) types)
    (bound : nestingOfList types ≤ maxNesting) :
    parse text = .ok types := by
  have notBlank : ¬ ∀ c ∈ text, isBlank c = true := by
    -- A blank text has no tokens, and no list derives from none.
    intro blanks
    obtain rfl := tokensAt.unique (.of_blanks blanks 0)
    exact isList_ne_nil isList rfl
  obtain ⟨alternatives, _, rfl, listed, _⟩ :=
    Parser.list_complete isList rfl bound
      (show Parser.Stops (.endOfText 0) [] from ⟨0, rfl⟩)
  apply parse_eq_ok_of_alternatives
  exact (parseAlternatives_eq_ok_iff notBlank).mpr
    ⟨tokens, tokensAt, listed, bound⟩

/-- The tokens of a text that is read derive the types it is read as. -/
theorem exists_isList_of_parse_eq_ok
    {text : List Char}
    (notBlank : ¬ ∀ c ∈ text, isBlank c = true)
    {types : List TypeExpr}
    (parsed : parse text = .ok types) :
    ∃ tokens, TokensAt 0 text tokens ∧
      IsList (tokens.map Token.kind) types ∧
        nestingOfList types ≤ maxNesting := by
  obtain ⟨alternatives, read, rfl⟩ := exists_alternatives_of_parse_eq_ok parsed
  obtain ⟨tokens, tokensAt, listed, bound⟩ :=
    (parseAlternatives_eq_ok_iff notBlank).mp read
  exact ⟨tokens, tokensAt, listed.isList, bound⟩

/-- The parser accepts exactly its grammar: a text is read as the given types
when it is blank and there are none, or when its tokens, each the longest at its
place, derive the types and brackets nest at most 64 levels deep. -/
theorem parse_eq_ok_iff
    (text : List Char)
    (types : List TypeExpr) :
    parse text = .ok types ↔
      ((∀ c ∈ text, isBlank c = true) ∧ types = []) ∨
        ∃ tokens, TokensAt 0 text tokens ∧
          IsList (tokens.map Token.kind) types ∧ nestingOfList types ≤ 64 := by
  constructor
  · intro parsed
    by_cases blanks : ∀ c ∈ text, isBlank c = true
    · rw [parse_of_blanks blanks] at parsed
      exact Or.inl ⟨blanks, (Except.ok.inj parsed).symm⟩
    · exact Or.inr (exists_isList_of_parse_eq_ok blanks parsed)
  · rintro (⟨blanks, rfl⟩ | ⟨tokens, tokensAt, isList, bound⟩)
    · exact parse_of_blanks blanks
    · exact parse_of_isList tokensAt isList bound

end TypeExpr
end DocLint
