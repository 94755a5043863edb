import DocLint.Proofs.RoundTrip

/-!
# Where reading tokens fails

Reading type expressions fails at the first token that cannot go on with what
was read, or at the end of the tokens.  What stands in front of that place is
the start of some type expressions: open brackets can be closed again, and a
name can be put where one is missing.  Every reader of the parser has this
property, at every number of levels that brackets may nest.
-/

namespace DocLint

open Text

/-! ## What an error is about -/

namespace SyntaxError.Cause

/-- Whether the end of the text is what is wrong. -/
def isAtEnd : Cause → Bool
  | expectingName none => true
  | unclosed _ => true
  | _ => false

/-- A token of this kind is what is wrong. -/
def IsAbout (kind : TokenKind) : Cause → Prop
  | expectingEnd name => kind = .name name
  | expectingName (some found) => kind = found
  | unexpected _ found => kind = found
  | missingArrow found => kind = found
  | tooDeep => ∃ bracket, kind = .opening bracket
  | _ => False

end SyntaxError.Cause

/-- An error at what is left of the tokens: at the next token, at the end of the
text, or at the character that is no token. -/
inductive FailsAt : Ending → List Token → SyntaxError → Prop
  | token {ending : Ending} {token : Token} {rest : List Token}
      {cause : SyntaxError.Cause} :
      cause.IsAbout token.kind →
      FailsAt ending (token :: rest) ⟨cause, token.start⟩
  | endOfText {offset : Nat} {cause : SyntaxError.Cause} :
      cause.isAtEnd = true →
      FailsAt (.endOfText offset) [] ⟨cause, offset⟩
  | invalid {character : Char} {offset : Nat} :
      FailsAt (.invalid character offset) []
        ⟨.invalidCharacter character, offset⟩

theorem Ending.failsAt_error
    {cause : SyntaxError.Cause}
    (isAtEnd : cause.isAtEnd = true)
    (ending : Ending) :
    FailsAt ending [] (ending.error cause) := by
  cases ending with
  | endOfText offset => exact .endOfText isAtEnd
  | invalid character offset => exact .invalid

/-! ## Tokens that complete a text -/

/-- Tokens that can be written behind any text. -/
def CanFollow (kinds : List TokenKind) : Prop :=
  ∃ text, StartsApart text ∧ Spells text kinds

namespace CanFollow

theorem nil : CanFollow [] :=
  ⟨[], startsApart_nil, .nil⟩

theorem append
    {left right : List TokenKind}
    (leftFollows : CanFollow left)
    (rightFollows : CanFollow right) :
    CanFollow (left ++ right) := by
  obtain ⟨text, apart, spells⟩ := leftFollows
  obtain ⟨behind, behindApart, behindSpells⟩ := rightFollows
  refine ⟨text ++ behind, ?_, spells.append behindApart behindSpells⟩
  cases text with
  | nil => exact behindApart
  | cons c rest => exact fun d head => apart d head

theorem closing (bracket : Bracket) : CanFollow [.closing bracket] := by
  have punctuation : isPunctuation bracket.closeChar = true := by
    cases bracket <;> rfl
  exact ⟨[bracket.closeChar], startsApart_of_isPunctuation punctuation [],
    .punctuation (.closing bracket) punctuation .nil⟩

theorem arrow : CanFollow [.arrow] :=
  ⟨[' ', '=', '>', ' '], startsApart_of_isBlank (by decide) _, .arrow .nil⟩

/-- Some name can be written, behind a blank. -/
theorem name : CanFollow [.name "A"] := by
  have isName : IsName "A".toList :=
    .path (.one (.word (isWord_of_all (by decide) (by decide))))
  exact ⟨' ' :: "A".toList, startsApart_of_isBlank (by decide) _,
    .blank (by decide) (.name isName)⟩

end CanFollow

/-! ## Starts of type expressions -/

namespace Parser

/-- Tokens that can be completed to a type expression in which brackets nest at
most the given number of levels. -/
def StartsType (levels : Nat) (kinds : List TokenKind) : Prop :=
  ∃ rest type, CanFollow rest ∧ IsType (kinds ++ rest) type ∧
    type.nesting ≤ levels

/-- Tokens that can be completed to type expressions divided by separators. -/
def StartsList (levels : Nat) (kinds : List TokenKind) : Prop :=
  ∃ rest types, CanFollow rest ∧ IsList (kinds ++ rest) types ∧
    TypeExpr.nestingOfList types ≤ levels

section Starts

variable {levels : Nat}
variable {kinds : List TokenKind}

theorem StartsType.nil (levels : Nat) : StartsType levels [] :=
  ⟨_, _, .name, .simple "A", Nat.zero_le levels⟩

theorem StartsType.of_isType
    {type : TypeExpr}
    (isType : IsType kinds type)
    (bound : type.nesting ≤ levels) :
    StartsType levels kinds :=
  ⟨[], type, .nil, by rwa [List.append_nil], bound⟩

theorem StartsType.startsList
    (starts : StartsType levels kinds) :
    StartsList levels kinds := by
  obtain ⟨rest, type, follows, isType, bound⟩ := starts
  exact ⟨rest, [type], follows, .one isType,
    by simpa [TypeExpr.nestingOfList] using bound⟩

theorem StartsList.of_isList
    {types : List TypeExpr}
    (isList : IsList kinds types)
    (bound : TypeExpr.nestingOfList types ≤ levels) :
    StartsList levels kinds :=
  ⟨[], types, .nil, by rwa [List.append_nil], bound⟩

/-- A type in front of the start of a list makes a longer start. -/
theorem StartsList.behind
    {type : TypeExpr}
    {first : List TokenKind}
    (starts : StartsList levels kinds)
    (isType : IsType first type)
    (bound : type.nesting ≤ levels) :
    StartsList levels (first ++ .separator :: kinds) := by
  obtain ⟨rest, types, follows, isList, restBound⟩ := starts
  refine ⟨rest, type :: types, follows, ?_, ?_⟩
  · rw [List.append_assoc, List.cons_append]
    exact .more isType isList
  · rw [TypeExpr.nestingOfList]
    exact Nat.max_le.mpr ⟨bound, restBound⟩

section Brackets

variable {front : List TokenKind}
variable {name : String}
variable (isFront : IsFront front name)

include isFront

/-- An opening bracket in front of the start of a list makes the start of a
type: the list is completed and the bracket is closed. -/
theorem StartsList.opened
    (starts : StartsList levels kinds)
    (bracket : Bracket) :
    StartsType (levels + 1) (front ++ .opening bracket :: kinds) := by
  obtain ⟨rest, types, follows, isList, bound⟩ := starts
  cases bracket with
  | angle =>
      refine ⟨rest ++ [.closing .angle], .generic name types,
        follows.append (.closing .angle), ?_, Nat.succ_le_succ bound⟩
      simpa using IsType.generic isFront isList
  | paren =>
      refine ⟨rest ++ [.closing .paren], .tuple name types,
        follows.append (.closing .paren), ?_, Nat.succ_le_succ bound⟩
      simpa using IsType.tuple isFront isList
  | brace =>
      -- The braces need an arrow and a value as well.
      have value : IsList [.name "A"] [.simple "A"] := .one (.simple "A")
      refine ⟨rest ++ ([.arrow] ++ ([.name "A"] ++ [.closing .brace])),
        .mapping name types [.simple "A"],
        follows.append (.append .arrow (.append .name (.closing .brace))), ?_, ?_⟩
      · simpa using IsType.mapping isFront isList value
      · simp only [TypeExpr.nesting, TypeExpr.nestingOfList]
        omega

/-- Behind the arrow of braces only the closing bracket is missing. -/
theorem StartsList.openedValues
    {keys : List TokenKind}
    {keyTypes : List TypeExpr}
    (starts : StartsList levels kinds)
    (isKeys : IsList keys keyTypes)
    (keysBound : TypeExpr.nestingOfList keyTypes ≤ levels) :
    StartsType (levels + 1)
      (front ++ .opening .brace :: (keys ++ .arrow :: kinds)) := by
  obtain ⟨rest, types, follows, isList, bound⟩ := starts
  refine ⟨rest ++ [.closing .brace], .mapping name keyTypes types,
    follows.append (.closing .brace), ?_, ?_⟩
  · simpa using IsType.mapping isFront isKeys isList
  · simp only [TypeExpr.nesting]
    omega

end Brackets

end Starts

/-! ## Readers that fail -/

/-- Two readings in sequence fail when the first does, or the second behind
it. -/
theorem bind_eq_error
    {ε α β : Type}
    {first : Except ε α}
    {next : α → Except ε β}
    {error : ε} :
    (first >>= next) = .error error ↔
      first = .error error ∨
        ∃ value, first = .ok value ∧ next value = .error error := by
  cases first with
  | error other => simp [bind, Except.bind]
  | ok value => simp [bind, Except.bind]

/-- Two readings fail only in the first if the second gives something for
everything. -/
theorem error_of_bind_eq_error
    {ε α β : Type}
    {first : Except ε α}
    {next : α → Except ε β}
    {error : ε}
    (succeeds : ∀ value, ∃ result, next value = .ok result)
    (failed : (first >>= next) = .error error) :
    first = .error error := by
  rcases bind_eq_error.mp failed with firstFailed | ⟨value, _, nextFailed⟩
  · exact firstFailed
  · obtain ⟨result, given⟩ := succeeds value
    exact absurd (given.symm.trans nextFailed) (by simp)

/-- Reading these tokens fails behind tokens with some property. -/
def FailsBehind
    (starts : List TokenKind → Prop)
    (ending : Ending)
    (tokens : List Token)
    (error : SyntaxError) : Prop :=
  ∃ before after, tokens = before ++ after ∧ FailsAt ending after error ∧
    starts (before.map Token.kind)

/-- What fails behind the rest of some tokens fails behind all of them. -/
theorem FailsBehind.append_left
    {starts whole : List TokenKind → Prop}
    {ending : Ending}
    {tokens : List Token}
    {error : SyntaxError}
    (fails : FailsBehind starts ending tokens error)
    (segment : List Token)
    (longer : ∀ kinds, starts kinds →
      whole (segment.map Token.kind ++ kinds)) :
    FailsBehind whole ending (segment ++ tokens) error := by
  obtain ⟨before, after, rfl, failsAt, startsBefore⟩ := fails
  refine ⟨segment ++ before, after, (List.append_assoc _ _ _).symm, failsAt, ?_⟩
  rw [List.map_append]
  exact longer _ startsBefore

/-- What is expected is missing at the next token. -/
theorem expect_eq_error
    {ending : Ending}
    {wanted : TokenKind}
    {bracket : Bracket}
    {tokens : List Token}
    {error : SyntaxError}
    (failed : expect ending wanted bracket tokens = .error error) :
    FailsAt ending tokens error := by
  cases tokens with
  | nil =>
      obtain rfl := Except.error.inj failed
      exact ending.failsAt_error rfl
  | cons token rest =>
      simp only [expect] at failed
      split at failed
      · exact absurd failed (by simp)
      · split at failed
        · rename_i isName
          obtain rfl := Except.error.inj failed
          exact .token isName
        · split at failed
          · obtain rfl := Except.error.inj failed
            exact .token rfl
          · obtain rfl := Except.error.inj failed
            exact .token rfl

/-- A reader of single alternatives that fails behind the start of a type. -/
def FailingItem
    (ending : Ending)
    (levels : Nat)
    (item : (tokens : List Token) → Outcome Alternative tokens) : Prop :=
  ∀ (tokens : List Token) (error : SyntaxError),
    item tokens = .error error →
    FailsBehind (StartsType levels) ending tokens error

section Lists

variable {ending : Ending}
variable {levels : Nat}
variable {item : (tokens : List Token) → Outcome Alternative tokens}
variable (sound : SoundItem levels item)
variable (failing : FailingItem ending levels item)

include sound failing

/-- A list fails in one of its items, or where the text breaks off behind
one. -/
theorem separated_fails
    {tokens : List Token}
    {error : SyntaxError}
    (failed : separated ending item tokens = .error error) :
    FailsBehind (StartsList levels) ending tokens error := by
  fun_induction separated ending item tokens with
  | case1 tokens error' itemFailed =>
      obtain rfl := Except.error.inj failed
      obtain ⟨before, after, cut, failsAt, starts⟩ :=
        failing tokens error' itemFailed
      exact ⟨before, after, cut, failsAt, starts.startsList⟩
  | case2 => exact absurd failed (by simp)
  | case3 tokens first shorter itemRead character offset =>
      rename_i broken
      obtain rfl := Except.error.inj failed
      obtain ⟨segment, cut, covers, bound⟩ := sound _ _ _ _ itemRead
      exact ⟨segment, [], cut, broken ▸ .invalid,
        (StartsType.of_isType covers.derived bound).startsList⟩
  | case4 tokens first token rest shorter itemRead isSeparator error' others
      hypothesis =>
      obtain rfl := Except.error.inj failed
      obtain ⟨segment, rfl, covers, bound⟩ := sound _ _ _ _ itemRead
      have behind : FailsBehind (StartsList levels) ending
          (segment ++ [token] ++ rest) error' := by
        refine (hypothesis others).append_left (segment ++ [token]) ?_
        intro kinds starts
        simpa [isSeparator] using starts.behind covers.derived bound
      rwa [List.append_assoc, List.singleton_append] at behind
  | case5 => exact absurd failed (by simp)
  | case6 => exact absurd failed (by simp)

/-- Brackets fail inside of them, or where their arrow or their closing bracket
is missing. -/
theorem bracketed_fails
    {name : String}
    {bracket : Bracket}
    {tokens : List Token}
    {error : SyntaxError}
    (failed : bracketed ending item name bracket tokens = .error error)
    {front : List TokenKind}
    (isFront : IsFront front name) :
    FailsBehind
      (fun kinds =>
        StartsType (levels + 1) (front ++ .opening bracket :: kinds))
      ending tokens error := by
  unfold bracketed at failed
  rcases bind_eq_error.mp failed with
    firstFailed | ⟨⟨first, rest, less⟩, firstRead, failed⟩
  · obtain ⟨before, after, cut, failsAt, starts⟩ :=
      separated_fails sound failing firstFailed
    exact ⟨before, after, cut, failsAt, starts.opened isFront bracket⟩
  · obtain ⟨segment, rfl, listed, bound, _⟩ := separated_sound sound firstRead
    have starts := (StartsList.of_isList listed.isList bound).opened isFront
      bracket
    have closing {wanted : TokenKind}
        (missing : expect ending wanted bracket rest = .error error) :
        FailsBehind
          (fun kinds =>
            StartsType (levels + 1) (front ++ .opening bracket :: kinds))
          ending (segment ++ rest) error :=
      ⟨segment, rest, rfl, expect_eq_error missing, starts⟩
    cases bracket with
    | angle =>
        exact closing (error_of_bind_eq_error (fun _ => ⟨_, rfl⟩) failed)
    | paren =>
        exact closing (error_of_bind_eq_error (fun _ => ⟨_, rfl⟩) failed)
    | brace =>
        rcases bind_eq_error.mp failed with
          missing | ⟨⟨_, behindArrow, _⟩, arrow, failed⟩
        · exact closing missing
        obtain ⟨token, rfl, isArrow, _⟩ := expect_eq_ok arrow
        -- The values follow the keys that were read.
        have values {kinds : List TokenKind}
            (startsValues : StartsList levels kinds) :
            StartsType (levels + 1) (front ++ .opening .brace ::
              ((segment ++ [token]).map Token.kind ++ kinds)) := by
          simpa [isArrow] using
            startsValues.openedValues isFront listed.isList bound
        rcases bind_eq_error.mp failed with
          secondFailed | ⟨⟨second, behind, _⟩, secondRead, failed⟩
        · have fails : FailsBehind
              (fun kinds =>
                StartsType (levels + 1) (front ++ .opening .brace :: kinds))
              ending (segment ++ [token] ++ behindArrow) error :=
            (separated_fails sound failing secondFailed).append_left
              (segment ++ [token]) fun _ startsValues => values startsValues
          rwa [List.append_assoc, List.singleton_append] at fails
        · obtain ⟨others, rfl, othersListed, othersBound, _⟩ :=
            separated_sound sound secondRead
          have missing := error_of_bind_eq_error (fun _ => ⟨_, rfl⟩) failed
          refine ⟨segment ++ [token] ++ others, behind, by simp,
            expect_eq_error missing, ?_⟩
          rw [List.map_append]
          exact values (.of_isList othersListed.isList othersBound)

end Lists

/-- A reader of collections, from behind their opening bracket, that fails at
the bracket because it is nested too deep, or behind the start of a type. -/
def FailingCollection
    (ending : Ending)
    (levels : Nat)
    (collection : (name : String) → (start : Nat) → Bracket → (offset : Nat) →
      (inner : List Token) → Outcome Alternative inner) : Prop :=
  ∀ (name : String) (start : Nat) (bracket : Bracket) (offset : Nat)
    (inner : List Token) (error : SyntaxError),
    collection name start bracket offset inner = .error error →
    error = ⟨.tooDeep, offset⟩ ∨
      ∀ front, IsFront front name →
        FailsBehind
          (fun kinds => StartsType levels (front ++ .opening bracket :: kinds))
          ending inner error

theorem typeWith_fails
    {ending : Ending}
    {levels : Nat}
    {collection : (name : String) → (start : Nat) → Bracket →
      (offset : Nat) → (inner : List Token) → Outcome Alternative inner}
    (failing : FailingCollection ending levels collection) :
    FailingItem ending levels (typeWith ending collection) := by
  intro tokens error failed
  have named (name : String) : StartsType levels [.name name] :=
    .of_isType (.simple name) (Nat.zero_le levels)
  unfold typeWith at failed
  split at failed
  · obtain rfl := Except.error.inj failed
    exact ⟨[], [], rfl, ending.failsAt_error rfl, .nil levels⟩
  · -- The text breaks off behind the name.
    rename_i name start stop
    split at failed
    · exact absurd failed (by simp)
    · obtain rfl := Except.error.inj failed
      exact ⟨[⟨.name name, start, stop⟩], [], rfl, .invalid, named name⟩
  · rename_i name start stop token more
    split at failed
    · rename_i bracket opening
      have collectionFailed :=
        error_of_bind_eq_error (fun _ => ⟨_, rfl⟩) failed
      rcases failing _ _ _ _ _ _ collectionFailed with rfl | behind
      · exact ⟨[⟨.name name, start, stop⟩], token :: more, rfl,
          .token ⟨bracket, opening⟩, named name⟩
      · refine (behind [.name name] (.written name)).append_left
          [⟨.name name, start, stop⟩, token] ?_
        intro kinds starts
        simpa [opening] using starts
    · exact absurd failed (by simp)
  · rename_i bracket start stop inner
    have collectionFailed := error_of_bind_eq_error (fun _ => ⟨_, rfl⟩) failed
    rcases failing _ _ _ _ _ _ collectionFailed with rfl | behind
    · exact ⟨[], ⟨.opening bracket, start, stop⟩ :: inner, rfl,
        .token ⟨bracket, rfl⟩, .nil levels⟩
    · exact (behind [] .elided).append_left [⟨.opening bracket, start, stop⟩]
        fun kinds starts => starts
  · rename_i token rest _ _ _
    obtain rfl := Except.error.inj failed
    exact ⟨[], token :: rest, rfl, .token rfl, .nil levels⟩

theorem collection_fails
    (ending : Ending)
    (levels : Nat) :
    FailingCollection ending levels (collection ending levels) := by
  induction levels with
  | zero =>
      intro name start bracket offset inner error failed
      exact Or.inl (Except.error.inj failed).symm
  | succ levels hypothesis =>
      intro name start bracket offset inner error failed
      rw [collection] at failed
      have bracketedFailed := error_of_bind_eq_error (fun _ => ⟨_, rfl⟩) failed
      refine Or.inr fun front isFront => ?_
      exact bracketed_fails (typeWith_sound (collection_sound ending levels))
        (typeWith_fails hypothesis) bracketedFailed isFront

/-- Reading one type fails behind the start of a type. -/
theorem type_fails
    (ending : Ending)
    (levels : Nat) :
    FailingItem ending levels (type ending levels) :=
  typeWith_fails (collection_fails ending levels)

end Parser
end DocLint
