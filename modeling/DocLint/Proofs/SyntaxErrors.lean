import DocLint.Proofs.BodyPlaces
import DocLint.Proofs.FailedReadings

/-!
# What a syntax error points at

The position of a syntax error is where the first token stands that cannot go on
with the text in front of it, or the end of the text where it breaks off.  The
text in front of that position is in order: it can be completed to a text that
is read without an error.
-/

namespace DocLint

open Text

/-! ## From tokens to texts -/

/-- What is left to read of a text at a byte position: a text that starts with
the next token, nothing, or a text that starts with no token. -/
inductive Remains : Ending → List Token → Nat → List Char → Prop
  | token {ending : Ending} {kind : TokenKind} {position stop : Nat}
      {rest : List Token} {lexeme more : List Char} :
      Lexeme kind lexeme →
      Remains ending (⟨kind, position, stop⟩ :: rest) position (lexeme ++ more)
  | endOfText (position : Nat) :
      Remains (.endOfText position) [] position []
  | invalid {c : Char} {position : Nat} {more : List Char} :
      isBlank c = false →
      Remains (.invalid c position) [] position (c :: more)

/-- A text can be cut right in front of any of its tokens, and where its tokens
end.  What stands in front of the cut is read as the tokens before it. -/
theorem Lexed.exists_cut
    {offset : Nat}
    {text : List Char}
    {before after : List Token}
    (split : (Lexed.ofChars offset text).tokens = before ++ after) :
    ∃ left right, text = left ++ right ∧ TokensAt offset left before ∧
      Remains (Lexed.ofChars offset text).ending after
        (offset + byteLength left) right := by
  have lexedAt := lexedAt_ofChars offset text
  generalize Lexed.ofChars offset text = lexed at split lexedAt ⊢
  induction lexedAt generalizing before with
  | endOfText offset =>
      obtain ⟨rfl, rfl⟩ := List.append_eq_nil_iff.mp split.symm
      exact ⟨[], [], rfl, .nil offset, .endOfText offset⟩
  | @invalid offset c rest notBlank _ =>
      obtain ⟨rfl, rfl⟩ := List.append_eq_nil_iff.mp split.symm
      exact ⟨[], c :: rest, rfl, .nil offset, .invalid notBlank⟩
  | @blank offset c _ _ blank _ hypothesis =>
      obtain ⟨left, right, rfl, leftAt, remains⟩ := hypothesis split
      refine ⟨c :: left, right, rfl, .blank blank leftAt, ?_⟩
      rwa [byteLength_cons, ← Nat.add_assoc]
  | @token offset kind lexeme rest tokens ending isLexeme longest _ hypothesis =>
      cases before with
      | nil =>
          obtain rfl := split
          exact ⟨[], lexeme ++ rest, rfl, .nil offset, .token isLexeme⟩
      | cons first others =>
          obtain ⟨rfl, splitRest⟩ := List.cons.inj split
          obtain ⟨left, right, rfl, leftAt, remains⟩ := hypothesis splitRest
          rw [← List.append_assoc] at longest
          refine ⟨lexeme ++ left, right, (List.append_assoc _ _ _).symm,
            .token isLexeme ?_ leftAt, ?_⟩
          · -- No lexeme becomes longer where the text is cut.
            intro other text otherLexeme start
            exact longest other text otherLexeme
              (start.trans (List.prefix_append _ _))
          · rwa [byteLength_append, ← Nat.add_assoc]

namespace TypeExpr

/-- A text that cannot be read has an error behind tokens that start type
expressions. -/
theorem failsBehind_of_parseAlternatives
    {text : List Char}
    {error : SyntaxError}
    (failed : parseAlternatives text = .error error) :
    Parser.FailsBehind (Parser.StartsList maxNesting)
      (Lexed.ofChars 0 text).ending (Lexed.ofChars 0 text).tokens error := by
  unfold parseAlternatives at failed
  split at failed
  · exact absurd failed (by simp)
  · dsimp only at failed
    have sound := Parser.type_sound (Lexed.ofChars 0 text).ending maxNesting
    have failing := Parser.type_fails (Lexed.ofChars 0 text).ending maxNesting
    split at failed
    · rename_i listFailed
      obtain rfl := Except.error.inj failed
      exact Parser.separated_fails sound failing listFailed
    · exact absurd failed (by simp)
    · -- The list ends in front of a token that should not be there.
      rename_i token rest less read
      obtain ⟨segment, cut, listed, bound, _⟩ :=
        Parser.separated_sound sound read
      have starts := Parser.StartsList.of_isList listed.isList bound
      split at failed
      · rename_i isName
        obtain rfl := Except.error.inj failed
        exact ⟨segment, token :: rest, cut, .token isName, starts⟩
      · obtain rfl := Except.error.inj failed
        exact ⟨segment, token :: rest, cut, .token rfl, starts⟩

/-- A text whose tokens start type expressions can be completed. -/
theorem exists_parse_append
    {text : List Char}
    {tokens : List Token}
    (tokensAt : TokensAt 0 text tokens)
    (starts : Parser.StartsList maxNesting (tokens.map Token.kind)) :
    ∃ suffix types, parse (text ++ suffix) = .ok types := by
  obtain ⟨rest, types, ⟨suffix, apart, spells⟩, isList, bound⟩ := starts
  obtain ⟨further, furtherAt, rfl⟩ := spells.tokensAt (0 + byteLength text)
  refine ⟨suffix, types, parse_of_isList (tokensAt.append apart furtherAt) ?_
    bound⟩
  rwa [List.map_append]

end TypeExpr

/-! ## The position of an error -/

/-- What an error is about is what the text goes on with: nothing, a character
that starts no token, or the token that is told. -/
inductive SyntaxError.Cause.PointsAt : SyntaxError.Cause → List Char → Prop
  | endOfText {cause : SyntaxError.Cause} :
      cause.isAtEnd = true → PointsAt cause []
  | character {c : Char} {more : List Char} :
      isBlank c = false → PointsAt (.invalidCharacter c) (c :: more)
  | token {cause : SyntaxError.Cause} {kind : TokenKind}
      {lexeme more : List Char} :
      cause.IsAbout kind → Lexeme kind lexeme →
      PointsAt cause (lexeme ++ more)

theorem FailsAt.pointsAt
    {ending : Ending}
    {tokens : List Token}
    {error : SyntaxError}
    {position : Nat}
    {rest : List Char}
    (failsAt : FailsAt ending tokens error)
    (remains : Remains ending tokens position rest) :
    error.offset = position ∧ error.cause.PointsAt rest := by
  cases failsAt with
  | token isAbout =>
      cases remains with
      | token isLexeme => exact ⟨rfl, .token isAbout isLexeme⟩
  | endOfText isAtEnd =>
      cases remains with
      | endOfText => exact ⟨rfl, .endOfText isAtEnd⟩
  | invalid =>
      cases remains with
      | invalid notBlank => exact ⟨rfl, .character notBlank⟩

namespace SyntaxError.Cause

variable {cause : SyntaxError.Cause}

theorem isAtEnd_eq_false_of_isAbout
    {kind : TokenKind}
    (isAbout : cause.IsAbout kind) :
    cause.isAtEnd = false := by
  cases cause with
  | expectingName found =>
      cases found with
      | none => exact absurd isAbout id
      | some => rfl
  | unclosed => exact absurd isAbout id
  | _ => rfl

namespace PointsAt

variable {rest : List Char}

theorem eq_nil_iff (pointsAt : cause.PointsAt rest) :
    rest = [] ↔ cause.isAtEnd = true := by
  cases pointsAt with
  | endOfText isAtEnd => simp [isAtEnd]
  | character => simp [isAtEnd]
  | token isAbout isLexeme =>
      simp [isAtEnd_eq_false_of_isAbout isAbout, isLexeme.ne_nil]

/-- Errors do not point at blanks. -/
theorem notBlank
    (pointsAt : cause.PointsAt rest)
    {c : Char}
    (head : rest.head? = some c) :
    isBlank c = false := by
  cases pointsAt with
  | endOfText => exact absurd head (by simp)
  | character notBlank =>
      obtain rfl := Option.some.inj head
      exact notBlank
  | token _ isLexeme =>
      rw [List.head?_append_of_ne_nil _ isLexeme.ne_nil] at head
      exact isBlank_eq_false_of_isTypeChar
        (isLexeme.isTypeChar_of_mem (List.mem_of_head? head))

theorem head?_eq
    {c : Char}
    (pointsAt : PointsAt (.invalidCharacter c) rest) :
    rest.head? = some c := by
  cases pointsAt with
  | endOfText atEnd => exact absurd atEnd (by simp [isAtEnd])
  | character => rfl
  | token isAbout => exact absurd isAbout id

theorem exists_lexeme
    (pointsAt : cause.PointsAt rest)
    {kind : TokenKind}
    (isAbout : cause.IsAbout kind) :
    ∃ found lexeme, cause.IsAbout found ∧ Lexeme found lexeme ∧
      lexeme <+: rest := by
  cases pointsAt with
  | endOfText isAtEnd =>
      rw [isAtEnd_eq_false_of_isAbout isAbout] at isAtEnd
      exact absurd isAtEnd (by decide)
  | character => exact absurd isAbout id
  | token isFound isLexeme =>
      exact ⟨_, _, isFound, isLexeme, List.prefix_append _ _⟩

end PointsAt

end SyntaxError.Cause

/-- An error marks the first fault of a text. -/
structure MarksFault (text : List Char) (error : SyntaxError) : Prop where
  bound : error.offset ≤ byteLength text
  /-- The position splits no character. -/
  boundary : ∃ before rest, text = before ++ rest ∧
    error.offset = byteLength before
  atEnd : error.offset = byteLength text ↔ error.cause.isAtEnd = true
  notBlank : error.offset ≠ byteLength text →
    ∃ c, (dropBytes error.offset text).head? = some c ∧ isBlank c = false
  character : ∀ c, error.cause = .invalidCharacter c →
    (dropBytes error.offset text).head? = some c
  /-- An error about a token tells the one that stands there. -/
  token : ∀ kind, error.cause.IsAbout kind →
    ∃ found lexeme, error.cause.IsAbout found ∧ Lexeme found lexeme ∧
      lexeme <+: dropBytes error.offset text
  /-- The text up to the error can be completed. -/
  viable : ∃ suffix types,
    TypeExpr.parse (takeBytes error.offset text ++ suffix) = .ok types

/-- The error of a text that cannot be read marks the first fault: it stands at
the end of the text if the text breaks off, and otherwise at the character or
the token that is wrong, and the text in front of it can be completed. -/
theorem TypeExpr.marksFault_of_parse_eq_error
    {text : List Char}
    {error : SyntaxError}
    (failed : parse text = .error error) :
    MarksFault text error := by
  obtain ⟨before, after, split, failsAt, starts⟩ :=
    failsBehind_of_parseAlternatives (parse_eq_error_iff.mp failed)
  obtain ⟨left, rest, rfl, leftAt, remains⟩ := Lexed.exists_cut split
  obtain ⟨offset, pointsAt⟩ := failsAt.pointsAt remains
  rw [Nat.zero_add] at offset
  have dropped : dropBytes error.offset (left ++ rest) = rest := by
    rw [offset, dropBytes_byteLength_append]
  have taken : takeBytes error.offset (left ++ rest) = left := by
    rw [offset, takeBytes_byteLength_append]
  have atEnd : error.offset = byteLength (left ++ rest) ↔ rest = [] := by
    rw [offset, byteLength_append]
    constructor
    · intro same
      by_contra nonempty
      have positive := byteLength_pos nonempty
      omega
    · rintro rfl
      rfl
  constructor
  · rw [offset, byteLength_append]
    exact Nat.le_add_right _ _
  · exact ⟨left, rest, rfl, offset⟩
  · rw [atEnd, pointsAt.eq_nil_iff]
  · intro notEnd
    obtain ⟨c, more, rfl⟩ := List.exists_cons_of_ne_nil fun empty =>
      notEnd (atEnd.mpr empty)
    rw [dropped]
    exact ⟨c, rfl, pointsAt.notBlank rfl⟩
  · intro c invalid
    rw [dropped]
    rw [invalid] at pointsAt
    exact pointsAt.head?_eq
  · intro kind isAbout
    rw [dropped]
    exact pointsAt.exists_lexeme isAbout
  · rw [taken]
    exact exists_parse_append leftAt starts

/-- A text with a bracket that is not the one to close, behind characters of two
bytes. -/
def wronglyClosed : List Char :=
  "é, Hash\x7b::Ö => (B ; C >".toList

/-- The error stands at the wrong bracket, which is no part of the text that can
be completed. -/
theorem marksFault_wrongly_closed :
    TypeExpr.parse wronglyClosed =
        .error ⟨.unexpected (some (.closing .paren)) (.closing .angle), 24⟩ ∧
      takeBytes 24 wronglyClosed = "é, Hash\x7b::Ö => (B ; C ".toList ∧
      MarksFault wronglyClosed
        ⟨.unexpected (some (.closing .paren)) (.closing .angle), 24⟩ := by
  have found : (TypeExpr.parse wronglyClosed).map List.length =
      .error ⟨.unexpected (some (.closing .paren)) (.closing .angle), 24⟩ := by
    decide +kernel
  cases failed : TypeExpr.parse wronglyClosed with
  | error error =>
      rw [failed] at found
      obtain rfl := Except.error.inj found
      exact ⟨rfl, by decide +kernel,
        TypeExpr.marksFault_of_parse_eq_error failed⟩
  | ok types =>
      rw [failed] at found
      exact absurd found (by simp [Except.map])

end DocLint
