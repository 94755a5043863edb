import DocLint.Proofs.Grammar

/-!
# How alternatives stand in a text

A text that can be read is an arrangement: blanks, the text of an alternative,
blanks, a separator, and so on.  Each alternative covers exactly its own text,
and that text can be read alone.  Conversely every arrangement can be read, so
that the text of an alternative can be exchanged for another one without
touching its neighbours.
-/

namespace DocLint

open Text

/-- A text is read as tokens of these kinds. -/
def Spells (text : List Char) (kinds : List TokenKind) : Prop :=
  ∃ tokens, TokensAt 0 text tokens ∧ tokens.map Token.kind = kinds

/-- A text that starts and ends with no blank. -/
structure IsTight (text : List Char) : Prop where
  head : ∃ c, text.head? = some c ∧ isBlank c = false
  last : ∃ c, text.getLast? = some c ∧ isBlank c = false

/-- A text of a single type expression, without blanks around it. -/
structure Writes (text : List Char) (type : TypeExpr) : Prop where
  tight : IsTight text
  derived : ∃ kinds, Spells text kinds ∧ IsType kinds type

theorem Writes.ne_nil
    {text : List Char}
    {type : TypeExpr}
    (writes : Writes text type) :
    text ≠ [] := by
  obtain ⟨c, head, _⟩ := writes.tight.head
  rintro rfl
  exact absurd head (by simp)

/-- The characters that separate alternatives. -/
def isSeparator (c : Char) : Bool :=
  c == ',' || c == ';'

/-- A text that starts at a byte position consists of these alternatives, with
separators between them and blanks around them. -/
inductive Arranged : Nat → List Char → List Alternative → Prop
  | one {offset : Nat} {before text after : List Char} {type : TypeExpr} :
      (∀ c ∈ before, isBlank c = true) →
      Writes text type →
      (∀ c ∈ after, isBlank c = true) →
      Arranged offset (before ++ text ++ after)
        [⟨type, offset + byteLength before,
          offset + byteLength before + byteLength text⟩]
  | more {offset : Nat} {before text after rest : List Char} {c : Char}
      {type : TypeExpr} {alternatives : List Alternative} :
      (∀ c ∈ before, isBlank c = true) →
      Writes text type →
      (∀ c ∈ after, isBlank c = true) →
      isSeparator c = true →
      Arranged (offset + byteLength (before ++ text ++ after ++ [c])) rest
        alternatives →
      Arranged offset (before ++ text ++ after ++ c :: rest)
        (⟨type, offset + byteLength before,
          offset + byteLength before + byteLength text⟩ :: alternatives)

/-! ## From tokens to arrangements -/

/-- The tokens of one alternative are cut out of the blanks before it. -/
theorem Covers.exists_writes
    {offset : Nat}
    {text : List Char}
    {segment : List Token}
    {alternative : Alternative}
    (covers : Covers segment alternative)
    (tokensAt : TokensAt offset text segment)
    (last : ∀ c, text.getLast? = some c → isBlank c = false) :
    ∃ before raw, text = before ++ raw ∧
      (∀ c ∈ before, isBlank c = true) ∧ Writes raw alternative.type ∧
      alternative.start = offset + byteLength before ∧
      alternative.stop = offset + byteLength before + byteLength raw := by
  cases segment with
  | nil => exact absurd rfl (TypeExpr.isType_ne_nil covers.derived)
  | cons first more =>
      obtain ⟨before, raw, rfl, blanks, ⟨c, head, headTight⟩, rawAt⟩ :=
        tokensAt.cut_blanks
      have rawNonempty : raw ≠ [] := rawAt.ne_nil
      obtain ⟨d, lastEq⟩ : ∃ d, raw.getLast? = some d :=
        ⟨_, List.getLast?_eq_some_getLast rawNonempty⟩
      have lastTight : isBlank d = false := by
        apply last
        rw [List.getLast?_append, lastEq]
        rfl
      have start := rawAt.head_start head headTight
      have stop := rawAt.last_stop lastEq lastTight
      rw [covers.start] at start
      rw [covers.stop] at stop
      obtain ⟨moved, movedAt, kinds⟩ := rawAt.shift 0
      refine ⟨before, raw, rfl, blanks,
        ⟨⟨⟨c, head, headTight⟩, ⟨d, lastEq, lastTight⟩⟩, ?_⟩, ?_, ?_⟩
      · exact ⟨_, ⟨moved, movedAt, kinds⟩, covers.derived⟩
      · exact Option.some.inj start
      · exact Option.some.inj stop

/-- A separator token is one of the two separators. -/
theorem TokensAt.cut_separator
    {offset : Nat}
    {text : List Char}
    {separator : Token}
    {tokens : List Token}
    (tokensAt : TokensAt offset text (separator :: tokens))
    (separatorKind : separator.kind = .separator) :
    ∃ before c rest, text = before ++ c :: rest ∧
      (∀ d ∈ before, isBlank d = true) ∧ isSeparator c = true ∧
      TokensAt (offset + byteLength (before ++ [c])) rest tokens := by
  obtain ⟨before, behind, rfl, blanks, ⟨d, head, tight⟩, behindAt⟩ :=
    tokensAt.cut_blanks
  generalize given : separator :: tokens = read at behindAt
  cases behindAt with
  | nil => exact absurd given (by simp)
  | blank isBlank =>
      obtain rfl : _ = d := Option.some.inj head
      exact absurd isBlank (by simp [tight])
  | @token _ kind lexeme rest _ isLexeme _ restAt =>
      obtain ⟨rfl, rfl⟩ := List.cons.inj given
      obtain rfl : kind = .separator := separatorKind
      cases isLexeme with
      | comma =>
          refine ⟨before, ',', rest, rfl, blanks, rfl, ?_⟩
          rwa [byteLength_append, ← Nat.add_assoc]
      | semicolon =>
          refine ⟨before, ';', rest, rfl, blanks, rfl, ?_⟩
          rwa [byteLength_append, ← Nat.add_assoc]

theorem Listed.arranged
    {tokens : List Token}
    {alternatives : List Alternative}
    (listed : Listed tokens alternatives)
    {offset : Nat}
    {text : List Char}
    (tokensAt : TokensAt offset text tokens) :
    Arranged offset text alternatives := by
  induction listed generalizing offset text with
  | @one segment alternative covers =>
      rw [← List.append_nil segment] at tokensAt
      obtain ⟨left, after, rfl, leftAt, last, afterAt⟩ := tokensAt.cut
      obtain ⟨before, raw, rfl, blanks, writes, start, stop⟩ :=
        covers.exists_writes leftAt last
      obtain ⟨type, _, _⟩ := alternative
      subst start stop
      exact .one blanks writes afterAt.blanks_of_nil
  | @more segment rest separator alternative alternatives covers separatorKind
      listed hypothesis =>
      obtain ⟨left, right, rfl, leftAt, last, rightAt⟩ := tokensAt.cut
      obtain ⟨before, raw, rfl, blanks, writes, start, stop⟩ :=
        covers.exists_writes leftAt last
      obtain ⟨after, c, behind, rfl, afterBlanks, separates, behindAt⟩ :=
        rightAt.cut_separator separatorKind
      obtain ⟨type, _, _⟩ := alternative
      subst start stop
      have arranged := hypothesis behindAt
      rw [Nat.add_assoc, ← byteLength_append, ← List.append_assoc] at arranged
      rw [← List.append_assoc]
      exact .more blanks writes afterBlanks separates arranged

/-! ## From arrangements to tokens -/

/-- A text can be read from any byte position. -/
theorem Spells.tokensAt
    {text : List Char}
    {kinds : List TokenKind}
    (spells : Spells text kinds)
    (offset : Nat) :
    ∃ tokens, TokensAt offset text tokens ∧ tokens.map Token.kind = kinds := by
  obtain ⟨tokens, tokensAt, rfl⟩ := spells
  exact tokensAt.shift offset

theorem startsApart_nil : StartsApart [] := by
  rintro c ⟨⟩

theorem startsApart_of_blanks
    {blanks : List Char}
    (allBlank : ∀ c ∈ blanks, isBlank c = true)
    {rest : List Char}
    (apart : StartsApart rest) :
    StartsApart (blanks ++ rest) := by
  cases blanks with
  | nil => exact apart
  | cons c more => exact startsApart_of_isBlank (allBlank c (by simp)) _

theorem isPunctuation_of_isSeparator
    {c : Char}
    (separates : isSeparator c = true) :
    isPunctuation c = true ∧ Lexeme .separator [c] := by
  simp only [isSeparator, Bool.or_eq_true, beq_iff_eq] at separates
  rcases separates with rfl | rfl
  · exact ⟨rfl, .comma⟩
  · exact ⟨rfl, .semicolon⟩

/-- A single character that is a token of its own is read in front of any
text. -/
theorem TokensAt.punctuation
    {kind : TokenKind}
    {c : Char}
    (isLexeme : Lexeme kind [c])
    (isPunctuation : isPunctuation c = true)
    {offset : Nat}
    {rest : List Char}
    {tokens : List Token}
    (restAt : TokensAt (offset + byteLength [c]) rest tokens) :
    TokensAt offset (c :: rest)
      (⟨kind, offset, offset + byteLength [c]⟩ :: tokens) :=
  TokensAt.token isLexeme (isLongest_punctuation isPunctuation rest) restAt

/-- The text of an alternative is read as tokens that cover it. -/
theorem Writes.exists_covers
    {text : List Char}
    {type : TypeExpr}
    (writes : Writes text type)
    (offset : Nat) :
    ∃ segment, TokensAt offset text segment ∧
      Covers segment ⟨type, offset, offset + byteLength text⟩ := by
  obtain ⟨⟨⟨c, head, headTight⟩, ⟨d, last, lastTight⟩⟩, kinds, spells,
    derived⟩ := writes
  obtain ⟨segment, segmentAt, rfl⟩ := spells.tokensAt offset
  exact ⟨segment, segmentAt, derived, segmentAt.head_start head headTight,
    segmentAt.last_stop last lastTight⟩

theorem Arranged.exists_listed
    {offset : Nat}
    {text : List Char}
    {alternatives : List Alternative}
    (arranged : Arranged offset text alternatives) :
    ∃ tokens, TokensAt offset text tokens ∧ Listed tokens alternatives := by
  induction arranged with
  | @one offset before text after type blanks writes afterBlanks =>
      obtain ⟨segment, segmentAt, covers⟩ :=
        writes.exists_covers (offset + byteLength before)
      have afterAt := TokensAt.of_blanks afterBlanks
        (offset + byteLength before + byteLength text)
      have apart := startsApart_of_blanks afterBlanks startsApart_nil
      rw [List.append_nil] at apart
      refine ⟨segment ++ [], ?_, ?_⟩
      · rw [List.append_assoc]
        exact .blanks_append blanks (segmentAt.append apart afterAt)
      · rw [List.append_nil]
        exact .one covers
  | @more offset before text after rest c type alternatives blanks writes
      afterBlanks separates arranged hypothesis =>
      obtain ⟨tokens, tokensAt, listed⟩ := hypothesis
      obtain ⟨segment, segmentAt, covers⟩ :=
        writes.exists_covers (offset + byteLength before)
      obtain ⟨punctuation, isLexeme⟩ := isPunctuation_of_isSeparator separates
      simp only [byteLength_append, ← Nat.add_assoc] at tokensAt
      have separatorAt := TokensAt.punctuation isLexeme punctuation tokensAt
      have behindAt := TokensAt.blanks_append afterBlanks separatorAt
      have apart := startsApart_of_blanks afterBlanks
        (startsApart_of_isPunctuation punctuation rest)
      have wholeAt := TokensAt.blanks_append blanks
        (segmentAt.append apart behindAt)
      rw [← List.append_assoc, ← List.append_assoc] at wholeAt
      exact ⟨_, wholeAt, .more covers rfl listed⟩

/-! ## The text of one alternative -/

/-- An alternative stands on this part of a text that starts at a byte
position. -/
structure StandsOn
    (offset : Nat)
    (text raw : List Char)
    (alternative : Alternative) : Prop where
  parts : ∃ front back, text = front ++ raw ++ back ∧
    alternative.start = offset + byteLength front
  stop : alternative.stop = alternative.start + byteLength raw

/-- An alternative of the rest of a text is one of the whole text. -/
theorem StandsOn.append_left
    {offset : Nat}
    {before text raw : List Char}
    {alternative : Alternative}
    (standsOn : StandsOn (offset + byteLength before) text raw alternative) :
    StandsOn offset (before ++ text) raw alternative := by
  obtain ⟨⟨front, back, rfl, start⟩, stop⟩ := standsOn
  refine ⟨⟨before ++ front, back, by simp, ?_⟩, stop⟩
  rw [start, byteLength_append, Nat.add_assoc]

/-- Every alternative of an arrangement stands on a text that writes it. -/
theorem Arranged.exists_raw
    {offset : Nat}
    {text : List Char}
    {alternatives : List Alternative}
    (arranged : Arranged offset text alternatives)
    {alternative : Alternative}
    (member : alternative ∈ alternatives) :
    ∃ raw, StandsOn offset text raw alternative ∧
      Writes raw alternative.type := by
  induction arranged with
  | @one offset before raw after type blanks writes afterBlanks =>
      obtain rfl := List.mem_singleton.mp member
      exact ⟨raw, ⟨⟨before, after, rfl, rfl⟩, rfl⟩, writes⟩
  | @more offset before raw after rest c type alternatives blanks writes
      afterBlanks separates arranged hypothesis =>
      rcases List.mem_cons.mp member with rfl | member
      · exact ⟨raw, ⟨⟨before, after ++ c :: rest, by simp, rfl⟩, rfl⟩, writes⟩
      · obtain ⟨other, standsOn, otherWrites⟩ := hypothesis member
        have moved := standsOn.append_left
        rw [List.append_assoc, List.singleton_append] at moved
        exact ⟨other, moved, otherWrites⟩

/-! ## Reading is finding the arrangement -/

theorem Arranged.not_blank
    {offset : Nat}
    {text : List Char}
    {alternatives : List Alternative}
    (arranged : Arranged offset text alternatives) :
    ¬ ∀ c ∈ text, isBlank c = true := by
  intro blanks
  obtain ⟨tokens, tokensAt, listed⟩ := arranged.exists_listed
  obtain rfl := tokensAt.unique (.of_blanks blanks offset)
  exact TypeExpr.isList_ne_nil listed.isList rfl

/-- A text is read as alternatives exactly when it is blank and there are none,
or when it is an arrangement of them in which brackets do not nest too deep. -/
theorem parseAlternatives_eq_ok_iff_arranged
    {text : List Char}
    {alternatives : List Alternative} :
    TypeExpr.parseAlternatives text = .ok alternatives ↔
      ((∀ c ∈ text, isBlank c = true) ∧ alternatives = []) ∨
        (Arranged 0 text alternatives ∧
          TypeExpr.nestingOfList (alternatives.map Alternative.type) ≤
            maxNesting) := by
  by_cases blanks : ∀ c ∈ text, isBlank c = true
  · rw [TypeExpr.parseAlternatives_of_blanks blanks]
    constructor
    · rintro ⟨⟩
      exact Or.inl ⟨blanks, rfl⟩
    · rintro (⟨_, rfl⟩ | ⟨arranged, _⟩)
      · rfl
      · exact absurd blanks arranged.not_blank
  · rw [TypeExpr.parseAlternatives_eq_ok_iff blanks]
    constructor
    · rintro ⟨tokens, tokensAt, listed, bound⟩
      exact Or.inr ⟨listed.arranged tokensAt, bound⟩
    · rintro (⟨allBlank, _⟩ | ⟨arranged, bound⟩)
      · exact absurd allBlank blanks
      · obtain ⟨tokens, tokensAt, listed⟩ := arranged.exists_listed
        exact ⟨tokens, tokensAt, listed, bound⟩

/-- Every alternative that is read stands on a text that writes it. -/
theorem exists_raw_of_parsed
    {text : List Char}
    {alternatives : List Alternative}
    (parsed : TypeExpr.parseAlternatives text = .ok alternatives)
    {alternative : Alternative}
    (member : alternative ∈ alternatives) :
    ∃ raw, StandsOn 0 text raw alternative ∧ Writes raw alternative.type := by
  rcases parseAlternatives_eq_ok_iff_arranged.mp parsed with
    ⟨_, rfl⟩ | ⟨arranged, _⟩
  · exact absurd member (by simp)
  · exact arranged.exists_raw member

end DocLint
