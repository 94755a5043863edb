import DocLint.Proofs.BodyPlaces
import DocLint.Proofs.Checked.Cuts
import DocLint.Proofs.Tokenizing

/-!
# Reading tokens without loss

The lexer takes a text apart: what it has read are tokens, each the longest that
fits at its place, and blanks.  It reads to the end of the text, or to the first
character that is no blank, stands in no token, and starts none.  Each of these
facts holds of one step of the lexer, and so of the whole reading.
-/

namespace DocLint

open Text
open Checked

/-! ## Positions -/

/-- Where the reading stopped. -/
def Ending.offset : Ending → Nat
  | endOfText offset => offset
  | invalid _ offset => offset

/-- A byte position lies in a token. -/
def Token.Holds (token : Token) (position : Nat) : Prop :=
  token.start ≤ position ∧ position < token.stop

namespace LexedAt

variable {offset : Nat}
variable {text : List Char}
variable {lexed : Lexed}

/-- The reading stops between the two ends of the text. -/
theorem ending_bounds (lexedAt : LexedAt offset text lexed) :
    offset ≤ lexed.ending.offset ∧
      lexed.ending.offset ≤ offset + byteLength text := by
  induction lexedAt with
  | endOfText offset => exact ⟨Nat.le_refl _, Nat.le_add_right _ _⟩
  | invalid => exact ⟨Nat.le_refl _, Nat.le_add_right _ _⟩
  | blank _ _ hypothesis =>
      rw [byteLength_cons]
      omega
  | token _ _ _ hypothesis =>
      dsimp only at hypothesis ⊢
      rw [byteLength_append]
      omega

/-- Tokens are not empty, and lie in what is read. -/
theorem token_bounds
    (lexedAt : LexedAt offset text lexed)
    {token : Token}
    (member : token ∈ lexed.tokens) :
    offset ≤ token.start ∧ token.start < token.stop ∧
      token.stop ≤ lexed.ending.offset := by
  induction lexedAt with
  | endOfText => exact absurd member (by simp)
  | invalid => exact absurd member (by simp)
  | blank _ _ hypothesis =>
      have bounds := hypothesis member
      omega
  | token isLexeme _ restAt hypothesis =>
      have positive := byteLength_pos isLexeme.ne_nil
      rcases List.mem_cons.mp member with rfl | member
      · have behind := restAt.ending_bounds.1
        dsimp only at behind ⊢
        omega
      · have bounds := hypothesis member
        dsimp only at bounds ⊢
        omega

/-- Each token stops before the next ones start. -/
theorem pairwise_tokens (lexedAt : LexedAt offset text lexed) :
    lexed.tokens.Pairwise fun left right => left.stop ≤ right.start := by
  induction lexedAt with
  | endOfText => exact .nil
  | invalid => exact .nil
  | blank _ _ hypothesis => exact hypothesis
  | token _ _ restAt hypothesis =>
      refine List.pairwise_cons.mpr ⟨?_, hypothesis⟩
      intro later member
      exact (restAt.token_bounds member).1

/-- A token is spelled by the longest lexeme at its place. -/
theorem exists_lexeme
    (lexedAt : LexedAt offset text lexed)
    {token : Token}
    (member : token ∈ lexed.tokens) :
    ∃ before lexeme rest, text = before ++ (lexeme ++ rest) ∧
      token.start = offset + byteLength before ∧
      token.stop = token.start + byteLength lexeme ∧
      Lexeme token.kind lexeme ∧ IsLongest lexeme (lexeme ++ rest) := by
  induction lexedAt with
  | endOfText => exact absurd member (by simp)
  | invalid => exact absurd member (by simp)
  | @blank offset c _ _ _ _ hypothesis =>
      obtain ⟨before, lexeme, rest, rfl, start, spelled⟩ := hypothesis member
      refine ⟨c :: before, lexeme, rest, rfl, ?_, spelled⟩
      rw [start, byteLength_cons, Nat.add_assoc]
  | @token offset _ first rest _ _ isLexeme longest _ hypothesis =>
      rcases List.mem_cons.mp member with rfl | member
      · exact ⟨[], first, rest, rfl, rfl, rfl, isLexeme, longest⟩
      · obtain ⟨before, lexeme, more, rfl, start, spelled⟩ := hypothesis member
        refine ⟨first ++ before, lexeme, more, by simp, ?_, spelled⟩
        rw [start, byteLength_append, Nat.add_assoc]

/-- Of the characters that are read, the blank ones are in no token and all
others are in one. -/
theorem isBlank_iff
    (lexedAt : LexedAt offset text lexed)
    {before after : List Char}
    {c : Char}
    (split : text = before ++ c :: after)
    (isRead : offset + byteLength before < lexed.ending.offset) :
    isBlank c = true ↔
      ∀ token ∈ lexed.tokens, ¬ token.Holds (offset + byteLength before) := by
  induction lexedAt generalizing before with
  | endOfText => exact absurd split (by simp)
  | invalid =>
      simp only [Ending.offset] at isRead
      omega
  | @blank offset d rest lexed blank restAt hypothesis =>
      cases before with
      | nil =>
          obtain ⟨rfl, rfl⟩ := List.cons.inj split
          refine ⟨fun _ token member holds => ?_, fun _ => blank⟩
          have positive := d.utf8Size_pos
          have behind := (restAt.token_bounds member).1
          have start := holds.1
          rw [byteLength_nil] at start
          omega
      | cons e more =>
          obtain ⟨rfl, rfl⟩ := List.cons.inj split
          rw [byteLength_cons, ← Nat.add_assoc] at isRead ⊢
          exact hypothesis rfl isRead
  | @token offset kind lexeme rest tokens ending isLexeme _ restAt hypothesis =>
      have behind (more : List Char)
          (beforeEq : before = lexeme ++ more)
          (restEq : rest = more ++ c :: after) :
          isBlank c = true ↔
            ∀ token ∈ ⟨kind, offset, offset + byteLength lexeme⟩ :: tokens,
              ¬ token.Holds (offset + byteLength before) := by
        rw [beforeEq, byteLength_append, ← Nat.add_assoc] at isRead ⊢
        rw [hypothesis restEq isRead, List.forall_mem_cons]
        refine (and_iff_right ?_).symm
        intro holds
        have stop := holds.2
        dsimp only at stop
        omega
      rcases List.append_eq_append_iff.mp split with
        ⟨more, beforeEq, restEq⟩ | ⟨more, lexemeEq, restEq⟩
      · exact behind more beforeEq restEq
      · cases more with
        | nil => exact behind [] (by simp [lexemeEq]) restEq.symm
        | cons d more =>
            -- The character stands in the lexeme.
            obtain ⟨rfl, _⟩ := List.cons.inj restEq
            have notBlank : isBlank c = false :=
              isBlank_eq_false_of_isTypeChar
                (isLexeme.isTypeChar_of_mem (by simp [lexemeEq]))
            have positive := c.utf8Size_pos
            have length := congrArg byteLength lexemeEq
            rw [byteLength_append, byteLength_cons] at length
            refine iff_of_false (by simp [notBlank]) fun none => ?_
            refine none _ List.mem_cons_self ⟨Nat.le_add_right _ _, ?_⟩
            dsimp only
            omega

/-- Where no token could be read, a character stands that starts none. -/
theorem exists_of_invalid
    (lexedAt : LexedAt offset text lexed)
    {c : Char}
    {position : Nat}
    (stopped : lexed.ending = .invalid c position) :
    ∃ before after, text = before ++ c :: after ∧
      position = offset + byteLength before ∧ isBlank c = false ∧
      StartsNoLexeme (c :: after) := by
  induction lexedAt with
  | endOfText => exact absurd stopped (by simp)
  | invalid notBlank noLexeme =>
      obtain ⟨rfl, rfl⟩ := Ending.invalid.inj stopped
      exact ⟨[], _, rfl, rfl, notBlank, noLexeme⟩
  | @blank offset d _ _ _ _ hypothesis =>
      obtain ⟨before, after, rfl, rfl, unreadable⟩ := hypothesis stopped
      refine ⟨d :: before, after, rfl, ?_, unreadable⟩
      rw [byteLength_cons, Nat.add_assoc]
  | @token offset _ lexeme _ _ _ _ _ _ hypothesis =>
      obtain ⟨before, after, rfl, rfl, unreadable⟩ := hypothesis stopped
      refine ⟨lexeme ++ before, after, by simp, ?_, unreadable⟩
      rw [byteLength_append, Nat.add_assoc]

/-- Where the text ended, all of it was read. -/
theorem eq_of_endOfText
    (lexedAt : LexedAt offset text lexed)
    {position : Nat}
    (ended : lexed.ending = .endOfText position) :
    position = offset + byteLength text := by
  induction lexedAt with
  | endOfText => exact (Ending.endOfText.inj ended).symm
  | invalid => exact absurd ended (by simp)
  | blank _ _ hypothesis =>
      rw [hypothesis ended, byteLength_cons, Nat.add_assoc]
  | token _ _ _ hypothesis =>
      rw [hypothesis ended, byteLength_append, Nat.add_assoc]

end LexedAt

/-! ## Lossless reading -/

/-- The longest name that a text starts with. -/
structure IsLongestName (name text : List Char) : Prop where
  isName : IsName name
  starts : name <+: text
  longest : ∀ other, IsName other → other <+: text →
    other.length ≤ name.length

/-- At a position in no token, a character stands that is no blank and starts no
token. -/
structure IsFault
    (tokens : List Token)
    (text : List Char)
    (c : Char)
    (position : Nat) : Prop where
  outside : ∀ token ∈ tokens, ¬ token.Holds position
  stands : ∃ rest, partFrom text position = .ok (c :: rest) ∧
    isBlank c = false ∧ StartsNoLexeme (c :: rest)

/-- A text is read without loss.  A part of the text is found only between
positions that lie in the text and split no character. -/
structure Lexed.IsLossless (lexed : Lexed) (text : List Char) : Prop where
  bounds : ∀ token ∈ lexed.tokens, token.start < token.stop ∧
    token.stop ≤ lexed.ending.offset ∧ lexed.ending.offset ≤ byteLength text
  increasing : lexed.tokens.Pairwise fun left right => left.stop ≤ right.start
  /-- Each token is spelled by the longest lexeme at its place. -/
  spelled : ∀ token ∈ lexed.tokens, ∃ lexeme rest,
    partFrom text token.start = .ok (lexeme ++ rest) ∧
    partBetween text token.start token.stop = .ok lexeme ∧
    Lexeme token.kind lexeme ∧ IsLongest lexeme (lexeme ++ rest)
  /-- The name of a token is the longest one at its place. -/
  named : ∀ name start stop, ⟨.name name, start, stop⟩ ∈ lexed.tokens →
    ∃ rest, partFrom text start = .ok rest ∧
      stop = start + byteLength name.toList ∧
      IsLongestName name.toList rest
  /-- Of what is read, all but the blanks is in the tokens. -/
  separated : ∀ position c rest, partFrom text position = .ok (c :: rest) →
    position < lexed.ending.offset →
      (isBlank c = true ↔ ∀ token ∈ lexed.tokens, ¬ token.Holds position)
  /-- An invalid character is the first one at fault. -/
  invalid : ∀ c position, lexed.ending = .invalid c position ↔
    IsFault lexed.tokens text c position ∧
      ∀ d earlier, IsFault lexed.tokens text d earlier → position ≤ earlier
  /-- The end of the text is reached if no character is at fault. -/
  endOfText : ∀ position, lexed.ending = .endOfText position ↔
    position = byteLength text ∧ ∀ c fault, ¬ IsFault lexed.tokens text c fault

theorem Lexeme.isLongestName
    {name : String}
    {lexeme rest : List Char}
    (isLexeme : Lexeme (.name name) lexeme)
    (longest : IsLongest lexeme (lexeme ++ rest)) :
    lexeme = name.toList ∧ IsLongestName name.toList (lexeme ++ rest) := by
  cases isLexeme with
  | name isName =>
      rw [String.toList_ofList]
      refine ⟨rfl, isName, List.prefix_append _ _, ?_⟩
      intro other isOther starts
      exact longest _ other (.name isOther) starts

namespace LexedAt

variable {text : List Char}
variable {lexed : Lexed}

/-- No character that is read is at fault. -/
theorem le_of_isFault
    (lexedAt : LexedAt 0 text lexed)
    {c : Char}
    {position : Nat}
    (isFault : IsFault lexed.tokens text c position) :
    lexed.ending.offset ≤ position := by
  obtain ⟨outside, rest, found, notBlank, _⟩ := isFault
  obtain ⟨before, split, rfl⟩ := partFrom_eq_ok_iff.mp found
  by_contra isRead
  have blank := (lexedAt.isBlank_iff split (by omega)).mpr
    (by rwa [Nat.zero_add])
  exact absurd blank (by simp [notBlank])

theorem isFault_of_invalid
    (lexedAt : LexedAt 0 text lexed)
    {c : Char}
    {position : Nat}
    (stopped : lexed.ending = .invalid c position) :
    IsFault lexed.tokens text c position := by
  obtain ⟨before, after, split, positionEq, unreadable⟩ :=
    lexedAt.exists_of_invalid stopped
  refine ⟨?_, after, ?_, unreadable⟩
  · intro token member holds
    have stop := (lexedAt.token_bounds member).2.2
    have less := holds.2
    rw [stopped, Ending.offset] at stop
    omega
  · rw [partFrom_eq_ok_iff]
    exact ⟨before, split, by rw [positionEq, Nat.zero_add]⟩

theorem not_isFault_of_endOfText
    (lexedAt : LexedAt 0 text lexed)
    {stop : Nat}
    (ended : lexed.ending = .endOfText stop)
    (c : Char)
    (position : Nat) :
    ¬ IsFault lexed.tokens text c position := by
  intro isFault
  have behind := lexedAt.le_of_isFault isFault
  have whole := lexedAt.eq_of_endOfText ended
  obtain ⟨_, rest, found, _⟩ := isFault
  obtain ⟨before, split, rfl⟩ := partFrom_eq_ok_iff.mp found
  have positive := c.utf8Size_pos
  rw [ended, Ending.offset, whole, split, byteLength_append,
    byteLength_cons] at behind
  omega

theorem isLossless (lexedAt : LexedAt 0 text lexed) :
    lexed.IsLossless text where
  bounds := by
    intro token member
    have bounds := lexedAt.token_bounds member
    have stop := lexedAt.ending_bounds.2
    omega
  increasing := lexedAt.pairwise_tokens
  spelled := by
    intro token member
    obtain ⟨before, lexeme, rest, rfl, start, stop, isLexeme, longest⟩ :=
      lexedAt.exists_lexeme member
    rw [Nat.zero_add] at start
    refine ⟨lexeme, rest, ?_, ?_, isLexeme, longest⟩
    · rw [start, partFrom_append]
    · rw [stop, start, ← List.append_assoc, partBetween_append]
  named := by
    intro name start stop member
    obtain ⟨before, lexeme, rest, rfl, startEq, stopEq, isLexeme, longest⟩ :=
      lexedAt.exists_lexeme member
    dsimp only at startEq stopEq
    obtain ⟨lexemeEq, isLongestName⟩ := isLexeme.isLongestName longest
    refine ⟨lexeme ++ rest, ?_, ?_, isLongestName⟩
    · rw [startEq, Nat.zero_add, partFrom_append]
    · rw [stopEq, lexemeEq]
  separated := by
    intro position c rest found isRead
    obtain ⟨before, split, rfl⟩ := partFrom_eq_ok_iff.mp found
    rw [← Nat.zero_add (byteLength before)] at isRead ⊢
    exact lexedAt.isBlank_iff split isRead
  invalid := by
    intro c position
    constructor
    · intro stopped
      refine ⟨lexedAt.isFault_of_invalid stopped, fun d earlier isFault => ?_⟩
      have behind := lexedAt.le_of_isFault isFault
      rwa [stopped, Ending.offset] at behind
    · rintro ⟨isFault, isFirst⟩
      have behind := lexedAt.le_of_isFault isFault
      cases stopped : lexed.ending with
      | endOfText stop =>
          exact absurd isFault (lexedAt.not_isFault_of_endOfText stopped _ _)
      | invalid d other =>
          -- Both are the character at the first fault.
          have isOther := lexedAt.isFault_of_invalid stopped
          rw [stopped, Ending.offset] at behind
          obtain rfl : position = other :=
            Nat.le_antisymm (isFirst d other isOther) behind
          obtain ⟨_, rest, found, _⟩ := isFault
          obtain ⟨_, others, otherFound, _⟩ := isOther
          have same := Except.ok.inj (found.symm.trans otherFound)
          rw [(List.cons.inj same).1]
  endOfText := by
    intro position
    constructor
    · intro ended
      refine ⟨?_, lexedAt.not_isFault_of_endOfText ended⟩
      rw [lexedAt.eq_of_endOfText ended, Nat.zero_add]
    · rintro ⟨rfl, noFault⟩
      cases stopped : lexed.ending with
      | endOfText stop =>
          rw [lexedAt.eq_of_endOfText stopped, Nat.zero_add]
      | invalid d other =>
          exact absurd (lexedAt.isFault_of_invalid stopped) (noFault d other)

end LexedAt

/-- The tokens of a text are the longest that fit, with blanks between them, up
to the end of the text or to the first character that no token has room for. -/
theorem Lexed.isLossless_ofChars (text : List Char) :
    (ofChars 0 text).IsLossless text :=
  (lexedAt_ofChars 0 text).isLossless

-- The second half of a divided double colon starts no token.
example :
    Lexed.ofChars 0 "é::b:::c".toList =
      ⟨[⟨.name "é::b", 0, 5⟩], .invalid ':' 5⟩ := by
  decide +kernel

end DocLint
