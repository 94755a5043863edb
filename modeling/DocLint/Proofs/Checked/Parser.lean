import DocLint.Proofs.Checked.Tokens
import DocLint.Proofs.Grammar

/-!
# Reading type expressions token by token

The reader keeps the byte position where it is, a token that it has looked at
but not used, and where the last token that it used stops.  It reads each token
only when it is needed.  Its states stand for the tokens that are still to come,
and step by step it does what the parser does with all tokens of the text.
-/

namespace DocLint
namespace Checked

open Text

/-- How far a text is read. -/
structure State where
  position : Nat
  /-- A token that is looked at, but not used. -/
  peeked : Option Seen
  /-- Where the last token that is used stops. -/
  lastEnd : Nat
  deriving DecidableEq, Repr

namespace State

/-- The next token, looked at before or read now. -/
def token (text : List Char) (state : State) : Except Failure (Seen × State) :=
  match state.peeked with
  | some seen => .ok (seen, { state with peeked := none })
  | none => do
    let seen ← tokenAt text state.position
    return (seen, { state with position := seen.stop })

/-- Look at the next token. -/
def peek
    (text : List Char)
    (state : State) : Except Failure (Option TokenKind × State) := do
  let (seen, state) ← state.token text
  return (seen.kind, { state with peeked := some seen })

/-- Use the next token. -/
def next (text : List Char) (state : State) : Except Failure (Seen × State) := do
  let (seen, state) ← state.token text
  if seen.kind = none then
    return (seen, state)
  else
    return (seen, { state with lastEnd := seen.stop })

end State

/-! ## Reading expressions -/

/-- Use one token that has to be there. -/
def expect
    (text : List Char)
    (wanted : TokenKind)
    (bracket : Bracket)
    (state : State) : Except Failure State := do
  let (seen, state) ← state.next text
  if seen.kind = some wanted then
    return state
  else
    match seen.kind with
    | none => throw (.refused ⟨.unclosed bracket, seen.start⟩)
    | some (.name name) => throw (.refused ⟨.expectingEnd name, seen.start⟩)
    | some found =>
      if wanted = .arrow then
        throw (.refused ⟨.missingArrow found, seen.start⟩)
      else
        throw (.refused ⟨.unexpected (some wanted) found, seen.start⟩)

/-- Read items divided by separators, as many as there are. -/
def separated
    (text : List Char)
    (item : State → Except Failure (Alternative × State)) :
    Nat → State → Except Failure (List Alternative × State)
  | 0, _ => throw (.fault .standstill)
  | rounds + 1, state => do
    let (first, state) ← item state
    let (kind, state) ← state.peek text
    if kind = some .separator then
      let (_, state) ← state.next text
      let (others, state) ← separated text item rounds state
      return (first :: others, state)
    else
      return ([first], state)

/-- Read what stands between brackets, and the closing bracket. -/
def bracketed
    (text : List Char)
    (item : State → Except Failure (Alternative × State))
    (name : String)
    (bracket : Bracket)
    (state : State) : Except Failure (TypeExpr × State) := do
  let (first, state) ← separated text item (text.length + 1) state
  let types := first.map Alternative.type
  match bracket with
  | .angle =>
    let state ← expect text (.closing .angle) .angle state
    return (.generic name types, state)
  | .paren =>
    let state ← expect text (.closing .paren) .paren state
    return (.tuple name types, state)
  | .brace =>
    let state ← expect text .arrow .brace state
    let (second, state) ← separated text item (text.length + 1) state
    let state ← expect text (.closing .brace) .brace state
    return (.mapping name types (second.map Alternative.type), state)

/-- Read one type expression, given how to read a collection from behind its
opening bracket. -/
def typeWith
    (text : List Char)
    (collection : String → Nat → Bracket → State →
      Except Failure (Alternative × State))
    (state : State) : Except Failure (Alternative × State) := do
  let (seen, state) ← state.next text
  match seen.kind with
  | some (.name name) =>
    let (kind, state) ← state.peek text
    match kind with
    | some (.opening bracket) =>
      let (_, state) ← state.next text
      collection name seen.start bracket state
    | _ => return (⟨.simple name, seen.start, state.lastEnd⟩, state)
  | some (.opening bracket) => collection "" seen.start bracket state
  | found => throw (.refused ⟨.expectingName found, seen.start⟩)

/-- Read a collection from behind its opening bracket, when brackets may nest
the given number of levels from it on. -/
def collection (text : List Char) :
    Nat → String → Nat → Bracket → State → Except Failure (Alternative × State)
  | 0, _, _, _, state => do
    let offset ← subtract state.lastEnd 1
    throw (.refused ⟨.tooDeep, offset⟩)
  | levels + 1, name, start, bracket, state => do
    let (type, state) ←
      bracketed text (typeWith text (collection text levels)) name bracket state
    return (⟨type, start, state.lastEnd⟩, state)

/-- Read alternatives with their positions. -/
def parseAlternatives (text : List Char) : Except Failure (List Alternative) :=
  if text.all isBlank then
    return []
  else do
    let (alternatives, state) ←
      separated text (typeWith text (collection text maxNesting))
        (text.length + 1) ⟨0, none, 0⟩
    let (seen, _) ← state.next text
    match seen.kind with
    | none => return alternatives
    | some (.name name) => throw (.refused ⟨.expectingEnd name, seen.start⟩)
    | some found => throw (.refused ⟨.unexpected none found, seen.start⟩)

/-! ## The tokens that are still to come -/

/-- A state of reading a text stands for the tokens that are still to come: they
are the tokens from its position on, or the first of them is looked at
already. -/
def Represents (text : List Char) (state : State) (lexed : Lexed) : Prop :=
  ∃ before rest, text = before ++ rest ∧
    Lexed.ofChars (byteLength before) rest = lexed ∧
    ((state.peeked = none ∧ state.position = byteLength before) ∨
      ∃ seen, seenFirst lexed = .ok seen ∧ state.peeked = some seen ∧
        state.position = seen.stop)

namespace Represents

variable {text : List Char}
variable {state : State}
variable {lexed : Lexed}

/-- Whether it is looked at or not, the next token is the first one to come. -/
theorem token_eq
    (represents : Represents text state lexed) :
    state.token text = do
      let seen ← seenFirst lexed
      return (seen, ⟨seen.stop, none, state.lastEnd⟩) := by
  obtain ⟨before, rest, rfl, rfl, ⟨peeked, position⟩ |
    ⟨seen, first, peeked, position⟩⟩ := represents
  · rw [State.token, peeked, position]
    dsimp only
    rw [tokenAt_eq]
  · rw [State.token, peeked, first, position]
    rfl

/-- Looking at a token leaves all tokens to come. -/
theorem peek_eq_ok
    (represents : Represents text state lexed)
    {seen : Seen}
    (first : seenFirst lexed = .ok seen) :
    ∃ after, state.peek text = .ok (seen.kind, after) ∧
      Represents text after lexed ∧ after.lastEnd = state.lastEnd := by
  refine ⟨⟨seen.stop, some seen, state.lastEnd⟩, ?_, ?_, rfl⟩
  · rw [State.peek, represents.token_eq, first]
    rfl
  · obtain ⟨before, rest, textEq, lexedEq, _⟩ := represents
    exact ⟨before, rest, textEq, lexedEq, Or.inr ⟨seen, first, rfl, rfl⟩⟩

/-- A character that starts no token is noticed where a token is looked at. -/
theorem peek_eq_error
    (represents : Represents text state lexed)
    {failure : Failure}
    (first : seenFirst lexed = .error failure) :
    state.peek text = .error failure := by
  rw [State.peek, represents.token_eq, first]
  rfl

/-- At the end of the text only the end is left to be used. -/
theorem next_endOfText
    {offset : Nat}
    (represents : Represents text state ⟨[], .endOfText offset⟩) :
    ∃ after, state.next text = .ok (⟨none, offset, offset⟩, after) := by
  refine ⟨⟨offset, none, state.lastEnd⟩, ?_⟩
  rw [State.next, represents.token_eq]
  rfl

theorem next_invalid
    {c : Char}
    {offset : Nat}
    (represents : Represents text state ⟨[], .invalid c offset⟩) :
    state.next text = .error (.refused ⟨.invalidCharacter c, offset⟩) := by
  rw [State.next, represents.token_eq]
  rfl

variable {token : Token}
variable {tokens : List Token}
variable {ending : Ending}

/-- A token that is used is no longer to come. -/
theorem next_token
    (represents : Represents text state ⟨token :: tokens, ending⟩) :
    ∃ after, state.next text =
        .ok (⟨some token.kind, token.start, token.stop⟩, after) ∧
      Represents text after ⟨tokens, ending⟩ ∧ after.lastEnd = token.stop := by
  refine ⟨⟨token.stop, none, token.stop⟩, ?_, ?_, rfl⟩
  · rw [State.next, represents.token_eq]
    rfl
  · obtain ⟨before, rest, rfl, lexed, _⟩ := represents
    obtain ⟨blanks, lexeme, rest, rfl, _, start, stop, onward⟩ :=
      exists_lexeme lexed
    have position : token.stop = byteLength (before ++ (blanks ++ lexeme)) := by
      simp only [byteLength_append]
      omega
    refine ⟨before ++ (blanks ++ lexeme), rest, by simp, ?_,
      Or.inl ⟨rfl, position⟩⟩
    rw [← position, onward]

/-- There are no more tokens than characters. -/
theorem length_le
    (represents : Represents text state ⟨tokens, ending⟩) :
    tokens.length ≤ text.length := by
  obtain ⟨before, rest, rfl, lexed, _⟩ := represents
  have fewer := length_tokens_le (byteLength before) rest
  simp only [lexed] at fewer
  rw [List.length_append]
  omega

theorem stop_of_opening
    (represents : Represents text state ⟨token :: tokens, ending⟩)
    {bracket : Bracket}
    (opening : token.kind = .opening bracket) :
    token.stop = token.start + 1 := by
  obtain ⟨before, rest, _, lexed, _⟩ := represents
  exact Checked.stop_of_opening lexed opening

end Represents

/-! ## Agreement with the parser -/

/-- A reader agrees with the parser: they find the same thing wrong, or what
they read and the tokens that are still to come are related. -/
def Agrees
    {α β : Type}
    {tokens : List Token}
    (related : α → List Token → β → Prop)
    (outcome : Parser.Outcome α tokens)
    (result : Except Failure β) : Prop :=
  match outcome with
  | .error error => result = .error (.refused error)
  | .ok (value, ⟨rest, _⟩) =>
    ∃ reached, result = .ok reached ∧ related value rest reached

theorem Agrees.eq_error
    {α β : Type}
    {tokens : List Token}
    {related : α → List Token → β → Prop}
    {result : Except Failure β}
    {error : SyntaxError}
    (agrees : Agrees related (.error error : Parser.Outcome α tokens) result) :
    result = .error (.refused error) :=
  agrees

/-- Readers that agree step by step agree. -/
theorem Agrees.bind
    {α β γ δ : Type}
    {tokens others : List Token}
    {related : α → List Token → β → Prop}
    {outcome : Parser.Outcome α tokens}
    {result : Except Failure β}
    (agrees : Agrees related outcome result)
    {relatedNext : γ → List Token → δ → Prop}
    {next : α × Rest tokens → Parser.Outcome γ others}
    {checkedNext : β → Except Failure δ}
    (onward : ∀ value rest reached, related value rest.1 reached →
      Agrees relatedNext (next (value, rest)) (checkedNext reached)) :
    Agrees relatedNext (outcome >>= next) (result >>= checkedNext) := by
  cases outcome with
  | error error =>
      rw [agrees.eq_error]
      exact rfl
  | ok read =>
      obtain ⟨value, rest⟩ := read
      obtain ⟨reached, rfl, isRelated⟩ := agrees
      exact onward value rest reached isRelated

/-- It does not matter how the tokens that are still to come are known to be
fewer. -/
theorem Agrees.rest
    {α β : Type}
    {tokens others : List Token}
    {related : α → List Token → β → Prop}
    {outcome : Parser.Outcome α tokens}
    {result : Except Failure β}
    (agrees : Agrees related outcome result)
    {next : α × Rest tokens → Parser.Outcome α others}
    (same : ∀ value rest,
      ∃ fewer, next (value, rest) = .ok (value, ⟨rest.1, fewer⟩)) :
    Agrees related (outcome >>= next) result := by
  cases outcome with
  | error error => exact agrees
  | ok read =>
      obtain ⟨value, rest⟩ := read
      obtain ⟨fewer, nextEq⟩ := same value rest
      rw [ok_bind, nextEq]
      exact agrees

section Agreement

variable {text : List Char}
variable {ending : Ending}

/-- The same value is read, and the same tokens are still to come. -/
def Reached
    (text : List Char)
    (ending : Ending)
    {α : Type}
    (value : α)
    (rest : List Token)
    (reached : α × State) : Prop :=
  reached.1 = value ∧ Represents text reached.2 ⟨rest, ending⟩

/-- A closing token is used last, and the same tokens are still to come. -/
def Closed
    (text : List Char)
    (ending : Ending)
    (stop : Nat)
    (rest : List Token)
    (state : State) : Prop :=
  state.lastEnd = stop ∧ Represents text state ⟨rest, ending⟩

theorem expect_agrees
    (wanted : TokenKind)
    (bracket : Bracket)
    {state : State}
    {tokens : List Token}
    (represents : Represents text state ⟨tokens, ending⟩) :
    Agrees (Closed text ending) (Parser.expect ending wanted bracket tokens)
      (expect text wanted bracket state) := by
  cases tokens with
  | nil =>
      cases ending with
      | endOfText offset =>
          obtain ⟨after, read⟩ := represents.next_endOfText
          rw [expect, read]
          rfl
      | invalid c offset =>
          rw [expect, represents.next_invalid]
          rfl
  | cons token tokens =>
      obtain ⟨after, read, onward, lastEnd⟩ := represents.next_token
      rw [Parser.expect, expect, read, ok_bind]
      dsimp only
      by_cases isWanted : token.kind = wanted
      · rw [if_pos isWanted, if_pos (by rw [isWanted])]
        exact ⟨after, rfl, lastEnd, onward⟩
      · rw [if_neg isWanted, if_neg (by simpa using isWanted)]
        cases kind : token.kind with
        | name name => rfl
        | _ =>
          dsimp only
          split
          · rfl
          · rfl

/-- Items that are read alike are read alike one after the other. -/
theorem separated_agrees
    {item : (tokens : List Token) → Parser.Outcome Alternative tokens}
    {checkedItem : State → Except Failure (Alternative × State)}
    (itemAgrees : ∀ {state tokens}, Represents text state ⟨tokens, ending⟩ →
      Agrees (Reached text ending) (item tokens) (checkedItem state))
    {rounds : Nat}
    {state : State}
    {tokens : List Token}
    (enough : tokens.length < rounds)
    (represents : Represents text state ⟨tokens, ending⟩) :
    Agrees (Reached text ending) (Parser.separated ending item tokens)
      (separated text checkedItem rounds state) := by
  induction rounds generalizing state tokens with
  | zero => omega
  | succ rounds hypothesis =>
      have first := itemAgrees represents
      rw [Parser.separated, separated]
      cases outcome : item tokens with
      | error error =>
          rw [outcome] at first
          rw [first.eq_error]
          rfl
      | ok read =>
          obtain ⟨value, rest, shorter⟩ := read
          rw [outcome] at first
          obtain ⟨⟨_, after⟩, itemRead, rfl, onward⟩ := first
          rw [itemRead, ok_bind]
          dsimp only
          cases rest with
          | nil =>
              cases ending with
              | endOfText offset =>
                  obtain ⟨peeked, looked, still, _⟩ := onward.peek_eq_ok rfl
                  rw [looked]
                  exact ⟨_, rfl, rfl, still⟩
              | invalid c offset =>
                  rw [onward.peek_eq_error rfl]
                  rfl
          | cons token rest =>
              obtain ⟨peeked, looked, still, _⟩ := onward.peek_eq_ok rfl
              rw [looked, ok_bind]
              dsimp only
              by_cases isSeparator : token.kind = .separator
              · obtain ⟨used, usedRead, behind, _⟩ := still.next_token
                have fewer : rest.length < rounds := by
                  simp only [List.length_cons] at shorter
                  omega
                have others := hypothesis fewer behind
                rw [if_pos isSeparator, if_pos (by rw [isSeparator]), usedRead,
                  ok_bind]
                dsimp only
                cases othersOutcome : Parser.separated ending item rest with
                | error error =>
                    rw [othersOutcome] at others
                    rw [others.eq_error]
                    rfl
                | ok othersRead =>
                    rw [othersOutcome] at others
                    obtain ⟨⟨_, last⟩, read, rfl, remaining⟩ := others
                    rw [read]
                    exact ⟨_, rfl, rfl, remaining⟩
              · rw [if_neg isSeparator, if_neg (by simpa using isSeparator)]
                exact ⟨_, rfl, rfl, still⟩

/-- What stands between brackets is read alike if its items are. -/
theorem bracketed_agrees
    {item : (tokens : List Token) → Parser.Outcome Alternative tokens}
    {checkedItem : State → Except Failure (Alternative × State)}
    (itemAgrees : ∀ {state tokens}, Represents text state ⟨tokens, ending⟩ →
      Agrees (Reached text ending) (item tokens) (checkedItem state))
    (name : String)
    (bracket : Bracket)
    {state : State}
    {tokens : List Token}
    (represents : Represents text state ⟨tokens, ending⟩) :
    Agrees
      (fun (read : TypeExpr × Nat) rest (reached : TypeExpr × State) =>
        reached.1 = read.1 ∧ Closed text ending read.2 rest reached.2)
      (Parser.bracketed ending item name bracket tokens)
      (bracketed text checkedItem name bracket state) := by
  have list {state : State} {tokens : List Token}
      (represents : Represents text state ⟨tokens, ending⟩) :=
    separated_agrees itemAgrees
      (Nat.lt_succ_of_le represents.length_le) represents
  refine (list represents).bind ?_
  rintro first ⟨rest, _⟩ ⟨_, after⟩ ⟨rfl, onward⟩
  cases bracket with
  | angle =>
      refine (expect_agrees (.closing .angle) .angle onward).bind ?_
      rintro stop ⟨rest, _⟩ after closed
      exact ⟨_, rfl, rfl, closed⟩
  | paren =>
      refine (expect_agrees (.closing .paren) .paren onward).bind ?_
      rintro stop ⟨rest, _⟩ after closed
      exact ⟨_, rfl, rfl, closed⟩
  | brace =>
      refine (expect_agrees .arrow .brace onward).bind ?_
      rintro _ ⟨rest, _⟩ after ⟨_, onward⟩
      refine (list onward).bind ?_
      rintro second ⟨rest, _⟩ ⟨_, after⟩ ⟨rfl, onward⟩
      refine (expect_agrees (.closing .brace) .brace onward).bind ?_
      rintro stop ⟨rest, _⟩ after closed
      exact ⟨_, rfl, rfl, closed⟩

/-- Collections are read alike from behind their opening bracket, which is used
last. -/
def CollectionsAgree
    (text : List Char)
    (ending : Ending)
    (collection : (name : String) → (start : Nat) → Bracket → (offset : Nat) →
      (inner : List Token) → Parser.Outcome Alternative inner)
    (checkedCollection : String → Nat → Bracket → State →
      Except Failure (Alternative × State)) : Prop :=
  ∀ (name : String) (start : Nat) (bracket : Bracket) {offset : Nat}
    {state : State} {tokens : List Token},
    Represents text state ⟨tokens, ending⟩ → state.lastEnd = offset + 1 →
    Agrees (Reached text ending) (collection name start bracket offset tokens)
      (checkedCollection name start bracket state)

section Types

variable {collection : (name : String) → (start : Nat) → Bracket →
  (offset : Nat) → (inner : List Token) → Parser.Outcome Alternative inner}
variable {checkedCollection : String → Nat → Bracket → State →
  Except Failure (Alternative × State)}

/-- What follows a name decides whether it stands alone. -/
theorem typeWith_name_agrees
    (collectionsAgree : CollectionsAgree text ending collection checkedCollection)
    (name : String)
    (start : Nat)
    {stop : Nat}
    {state : State}
    {tokens : List Token}
    (represents : Represents text state ⟨tokens, ending⟩)
    (lastEnd : state.lastEnd = stop) :
    Agrees (Reached text ending)
      (Parser.typeWith ending collection (⟨.name name, start, stop⟩ :: tokens))
      (do
        let (kind, state) ← state.peek text
        match kind with
        | some (.opening bracket) =>
          let (_, state) ← state.next text
          checkedCollection name start bracket state
        | _ => return (⟨.simple name, start, state.lastEnd⟩, state)) := by
  cases tokens with
  | nil =>
      cases ending with
      | endOfText offset =>
          obtain ⟨after, looked, still, lastEndEq⟩ := represents.peek_eq_ok rfl
          rw [looked, ← lastEnd, ← lastEndEq]
          exact ⟨_, rfl, rfl, still⟩
      | invalid c offset =>
          rw [represents.peek_eq_error rfl]
          rfl
  | cons token tokens =>
      obtain ⟨after, looked, still, lastEndEq⟩ := represents.peek_eq_ok rfl
      rw [looked, ok_bind, ← lastEnd, ← lastEndEq]
      obtain ⟨kind, bracketStart, bracketStop⟩ := token
      cases kind with
      | opening bracket =>
          obtain ⟨used, usedRead, onward, usedEnd⟩ := still.next_token
          have sized := still.stop_of_opening rfl
          dsimp only
          rw [usedRead]
          refine (collectionsAgree name start bracket onward
            (usedEnd.trans sized)).rest ?_
          intro alternative rest
          exact ⟨_, rfl⟩
      | _ => exact ⟨_, rfl, rfl, still⟩

/-- A type expression is read alike if collections are. -/
theorem typeWith_agrees
    (collectionsAgree : CollectionsAgree text ending collection checkedCollection)
    {state : State}
    {tokens : List Token}
    (represents : Represents text state ⟨tokens, ending⟩) :
    Agrees (Reached text ending) (Parser.typeWith ending collection tokens)
      (typeWith text checkedCollection state) := by
  cases tokens with
  | nil =>
      cases ending with
      | endOfText offset =>
          obtain ⟨after, read⟩ := represents.next_endOfText
          rw [typeWith, read]
          rfl
      | invalid c offset =>
          rw [typeWith, represents.next_invalid]
          rfl
  | cons token tokens =>
      obtain ⟨after, read, onward, lastEnd⟩ := represents.next_token
      rw [typeWith, read, ok_bind]
      obtain ⟨kind, start, stop⟩ := token
      cases kind with
      | name name =>
          exact typeWith_name_agrees collectionsAgree name start onward lastEnd
      | opening bracket =>
          have sized := represents.stop_of_opening rfl
          refine (collectionsAgree "" start bracket onward
            (lastEnd.trans sized)).rest ?_
          intro alternative rest
          exact ⟨_, rfl⟩
      | closing bracket => rfl
      | arrow => rfl
      | separator => rfl

end Types

/-- Collections are read alike, however many levels brackets may nest. -/
theorem collection_agrees (levels : Nat) :
    CollectionsAgree text ending (Parser.collection ending levels)
      (collection text levels) := by
  induction levels with
  | zero =>
      intro name start bracket offset state tokens _ lastEnd
      rw [Parser.collection, collection, lastEnd, subtract_add]
      rfl
  | succ levels hypothesis =>
      intro name start bracket offset state tokens represents _
      refine (bracketed_agrees (typeWith_agrees hypothesis) name bracket
        represents).bind ?_
      rintro ⟨type, stop⟩ rest ⟨_, after⟩ ⟨rfl, lastEnd, onward⟩
      refine ⟨_, rfl, ?_, onward⟩
      dsimp only
      rw [lastEnd]

end Agreement

/-- Reading token by token gives the alternatives of a text, or the error that
is found in it. -/
theorem parseAlternatives_eq (text : List Char) :
    parseAlternatives text =
      (TypeExpr.parseAlternatives text).mapError .refused := by
  rw [parseAlternatives, TypeExpr.parseAlternatives]
  by_cases blanks : text.all isBlank = true
  · rw [if_pos blanks, if_pos blanks]
    rfl
  · rw [if_neg blanks, if_neg blanks]
    have represents : Represents text ⟨0, none, 0⟩ (Lexed.ofChars 0 text) :=
      ⟨[], text, rfl, rfl, Or.inl ⟨rfl, rfl⟩⟩
    generalize Lexed.ofChars 0 text = lexed at represents
    obtain ⟨tokens, ending⟩ := lexed
    have agrees : Agrees (Reached text ending)
        (Parser.separated ending (Parser.type ending maxNesting) tokens)
        (separated text (typeWith text (collection text maxNesting))
          (text.length + 1) ⟨0, none, 0⟩) :=
      separated_agrees (typeWith_agrees (collection_agrees maxNesting))
        (Nat.lt_succ_of_le represents.length_le) represents
    dsimp only
    cases outcome : Parser.separated ending (Parser.type ending maxNesting)
        tokens with
    | error error =>
        rw [outcome] at agrees
        rw [agrees.eq_error]
        rfl
    | ok read =>
        obtain ⟨alternatives, rest, fewer⟩ := read
        rw [outcome] at agrees
        obtain ⟨⟨_, after⟩, listed, rfl, onward⟩ := agrees
        rw [listed, ok_bind]
        cases rest with
        | nil =>
            obtain ⟨_, _, _, _, ended⟩ :=
              Parser.separated_sound (Parser.type_sound _ _) outcome
            obtain ⟨offset, rfl⟩ := ended rfl
            obtain ⟨last, lastRead⟩ := onward.next_endOfText
            dsimp only
            rw [lastRead]
            rfl
        | cons token rest =>
            obtain ⟨last, lastRead, _, _⟩ := onward.next_token
            obtain ⟨kind, start, stop⟩ := token
            dsimp only
            rw [lastRead]
            cases kind with
            | _ => rfl

end Checked
end DocLint
