import DocLint.Proofs.Lexing
import Mathlib.Data.List.Basic

/-!
# Reading a text as tokens

`Lexed.ofChars` reads a text in the steps of `LexedAt`, and where it reaches the
end it computes the relation `TokensAt`.  That relation is what later modules
use: a text can be cut behind any of its tokens, two texts can be joined when
the second cannot go on with a name, and blanks can be taken off or put in at
either end.
-/

namespace DocLint

open Text

/-! ## Characters of tokens -/

/-- The characters that tokens are spelled with. -/
def isTypeChar (c : Char) : Bool :=
  isPunctuation c || ['=', '#', ':'].contains c || isNameChar c

theorem isBlank_eq_false_of_isTypeChar
    {c : Char}
    (typeChar : isTypeChar c = true) :
    isBlank c = false := by
  have marks : (['<', '>', '(', ')', '\x7b', '\x7d', ',', ';'].all fun d =>
      isBlank d == false) = true := by
    decide
  have others : (['=', '#', ':'].all fun d => isBlank d == false) = true := by
    decide
  simp only [isTypeChar, isPunctuation, Bool.or_eq_true,
    List.contains_iff_mem] at typeChar
  rcases typeChar with (punctuation | other) | nameChar
  · exact beq_iff_eq.mp (List.all_eq_true.mp marks c punctuation)
  · exact beq_iff_eq.mp (List.all_eq_true.mp others c other)
  · exact isBlank_eq_false_of_isNameChar nameChar

theorem IsPathTail.isTypeChar_of_mem
    {text : List Char}
    (tail : IsPathTail text)
    {c : Char}
    (member : c ∈ text) :
    isTypeChar c = true := by
  rcases tail.mem_cases member with rfl | nameChar
  · decide
  · simp [isTypeChar, nameChar]

theorem Lexeme.isTypeChar_of_mem
    {kind : TokenKind}
    {lexeme : List Char}
    (isLexeme : Lexeme kind lexeme)
    {c : Char}
    (member : c ∈ lexeme) :
    isTypeChar c = true := by
  cases lexeme with
  | nil => simp at member
  | cons d rest =>
      rcases isLexeme.cons_cases with
        ⟨punctuation, rfl⟩ | ⟨rfl, rfl⟩ | ⟨rfl, isWord⟩ | tail
      · obtain rfl : c = d := by simpa using member
        simp [isTypeChar, punctuation]
      · have table : ['=', '>'].all isTypeChar = true := by decide
        exact List.all_eq_true.mp table c member
      · rcases List.mem_cons.mp member with rfl | member
        · decide
        · simp [isTypeChar, isWord.2 c member]
      · exact tail.isTypeChar_of_mem member

/-- A text that can be read consists of blanks and characters of tokens. -/
theorem TokensAt.mem_cases
    {offset : Nat}
    {text : List Char}
    {tokens : List Token}
    (tokensAt : TokensAt offset text tokens)
    {c : Char}
    (member : c ∈ text) :
    isBlank c = true ∨ isTypeChar c = true := by
  induction tokensAt with
  | nil => simp at member
  | blank isBlank _ hypothesis =>
      rcases List.mem_cons.mp member with rfl | member
      · exact Or.inl isBlank
      · exact hypothesis member
  | token isLexeme _ _ hypothesis =>
      rcases List.mem_append.mp member with member | member
      · exact Or.inr (isLexeme.isTypeChar_of_mem member)
      · exact hypothesis member

/-! ## Steps of the lexer -/

/-- No token is spelled by the start of a text. -/
def StartsNoLexeme (text : List Char) : Prop :=
  ∀ kind lexeme, Lexeme kind lexeme → ¬ lexeme <+: text

/-- What is read of a text that starts at a byte position, and where the reading
stops. -/
inductive LexedAt : Nat → List Char → Lexed → Prop
  | endOfText (offset : Nat) : LexedAt offset [] ⟨[], .endOfText offset⟩
  | invalid {offset : Nat} {c : Char} {rest : List Char} :
      isBlank c = false →
      StartsNoLexeme (c :: rest) →
      LexedAt offset (c :: rest) ⟨[], .invalid c offset⟩
  | blank {offset : Nat} {c : Char} {rest : List Char} {lexed : Lexed} :
      isBlank c = true →
      LexedAt (offset + c.utf8Size) rest lexed →
      LexedAt offset (c :: rest) lexed
  | token {offset : Nat} {kind : TokenKind} {lexeme rest : List Char}
      {tokens : List Token} {ending : Ending} :
      Lexeme kind lexeme →
      IsLongest lexeme (lexeme ++ rest) →
      LexedAt (offset + byteLength lexeme) rest ⟨tokens, ending⟩ →
      LexedAt offset (lexeme ++ rest)
        ⟨⟨kind, offset, offset + byteLength lexeme⟩ :: tokens, ending⟩

theorem startsNoLexeme_of_kindAt?
    {c : Char}
    {rest : List Char}
    (missing : Token.kindAt? c rest = none) :
    StartsNoLexeme (c :: rest) := by
  intro kind lexeme isLexeme starts
  cases lexeme with
  | nil => exact isLexeme.ne_nil rfl
  | cons d more =>
      obtain ⟨rfl, moreStarts⟩ := List.cons_prefix_cons.mp starts
      exact Token.kindAt?_eq_none missing isLexeme moreStarts

/-- Every text is read in these steps. -/
theorem lexedAt_ofChars
    (offset : Nat)
    (text : List Char) :
    LexedAt offset text (Lexed.ofChars offset text) := by
  fun_induction Lexed.ofChars offset text with
  | case1 offset => exact .endOfText offset
  | case2 offset c rest isBlank hypothesis => exact .blank isBlank hypothesis
  | case3 offset c rest notBlank missing =>
      exact .invalid (by simpa using notBlank)
        (startsNoLexeme_of_kindAt? missing)
  | case4 offset c rest _ kind length found _ _ hypothesis =>
      obtain ⟨_, isLexeme, longest⟩ := Token.kindAt?_eq_some found
      have joined : c :: rest.take length ++ rest.drop length = c :: rest := by
        simp
      rw [← joined] at longest
      have step := LexedAt.token isLexeme longest hypothesis
      rwa [joined] at step

/-! ## The lexer computes the relation -/

theorem Lexed.ofChars_of_tokensAt
    {offset : Nat}
    {text : List Char}
    {tokens : List Token}
    (tokensAt : TokensAt offset text tokens) :
    Lexed.ofChars offset text =
      ⟨tokens, .endOfText (offset + byteLength text)⟩ := by
  induction tokensAt with
  | nil offset => simp [Lexed.ofChars]
  | @blank offset c rest tokens isBlank _ hypothesis =>
      rw [Lexed.ofChars, if_pos isBlank, hypothesis, byteLength_cons,
        Nat.add_assoc]
  | @token offset kind lexeme rest tokens isLexeme longest _ hypothesis =>
      cases lexeme with
      | nil => exact absurd rfl isLexeme.ne_nil
      | cons c more =>
          have notBlank : isBlank c = false :=
            isBlank_eq_false_of_isTypeChar
              (isLexeme.isTypeChar_of_mem List.mem_cons_self)
          rw [List.cons_append, Lexed.ofChars, if_neg (by simp [notBlank]),
            Token.kindAt?_of_isLongest isLexeme longest]
          simp only [List.take_left, List.drop_left, hypothesis]
          rw [← List.cons_append, byteLength_append, Nat.add_assoc]

/-- What is read in steps to the end of a text are the tokens of all of it. -/
theorem LexedAt.tokensAt
    {offset stop : Nat}
    {text : List Char}
    {lexed : Lexed}
    (lexedAt : LexedAt offset text lexed)
    (ended : lexed.ending = .endOfText stop) :
    TokensAt offset text lexed.tokens := by
  induction lexedAt with
  | endOfText offset => exact .nil offset
  | invalid => exact absurd ended (by simp)
  | blank isBlank _ hypothesis => exact .blank isBlank (hypothesis ended)
  | token isLexeme longest _ hypothesis =>
      exact .token isLexeme longest (hypothesis ended)

theorem Lexed.tokensAt_of_endOfText
    {offset stop : Nat}
    {text : List Char}
    (ended : (Lexed.ofChars offset text).ending = .endOfText stop) :
    TokensAt offset text (Lexed.ofChars offset text).tokens :=
  (lexedAt_ofChars offset text).tokensAt ended

/-- The lexer reaches the end of a text exactly when the text is a sequence of
blanks and longest lexemes, and then it gives their tokens. -/
theorem tokensAt_iff
    {offset : Nat}
    {text : List Char}
    {tokens : List Token} :
    TokensAt offset text tokens ↔
      ∃ stop, Lexed.ofChars offset text = ⟨tokens, .endOfText stop⟩ := by
  constructor
  · intro tokensAt
    exact ⟨_, Lexed.ofChars_of_tokensAt tokensAt⟩
  · rintro ⟨stop, lexed⟩
    have tokensAt := Lexed.tokensAt_of_endOfText
      (show (Lexed.ofChars offset text).ending = .endOfText stop by rw [lexed])
    rwa [lexed] at tokensAt

namespace TokensAt

/-- A text is read in one way only. -/
theorem unique
    {offset : Nat}
    {text : List Char}
    {tokens others : List Token}
    (tokensAt : TokensAt offset text tokens)
    (othersAt : TokensAt offset text others) :
    tokens = others := by
  have lexed := Lexed.ofChars_of_tokensAt tokensAt
  rw [Lexed.ofChars_of_tokensAt othersAt] at lexed
  exact (Lexed.mk.inj lexed).1.symm

/-- Where the reading starts does not change which tokens are read. -/
theorem shift
    {offset : Nat}
    {text : List Char}
    {tokens : List Token}
    (tokensAt : TokensAt offset text tokens)
    (other : Nat) :
    ∃ moved, TokensAt other text moved ∧
      moved.map Token.kind = tokens.map Token.kind := by
  induction tokensAt generalizing other with
  | nil => exact ⟨[], .nil other, rfl⟩
  | @blank offset c rest tokens isBlank _ hypothesis =>
      obtain ⟨moved, movedAt, kinds⟩ := hypothesis (other + c.utf8Size)
      exact ⟨moved, .blank isBlank movedAt, kinds⟩
  | @token offset kind lexeme rest tokens isLexeme longest _ hypothesis =>
      obtain ⟨moved, movedAt, kinds⟩ :=
        hypothesis (other + byteLength lexeme)
      exact ⟨_, .token isLexeme longest movedAt, by simp [kinds]⟩

/-! ## Blanks -/

theorem of_blanks
    {text : List Char}
    (blanks : ∀ c ∈ text, isBlank c = true)
    (offset : Nat) :
    TokensAt offset text [] := by
  induction text generalizing offset with
  | nil => exact .nil offset
  | cons c rest hypothesis =>
      exact .blank (blanks c (by simp))
        (hypothesis (fun d member => blanks d (by simp [member])) _)

theorem blanks_of_nil
    {offset : Nat}
    {text : List Char}
    (tokensAt : TokensAt offset text []) :
    ∀ c ∈ text, isBlank c = true := by
  generalize none : ([] : List Token) = tokens at tokensAt
  induction tokensAt with
  | nil => simp
  | blank isBlank _ hypothesis =>
      intro d member
      rcases List.mem_cons.mp member with rfl | member
      · exact isBlank
      · exact hypothesis none d member
  | token => exact absurd none (by simp)

/-- Blanks in front of a text only move its tokens. -/
theorem blanks_append
    {offset : Nat}
    {blanks text : List Char}
    {tokens : List Token}
    (allBlank : ∀ c ∈ blanks, isBlank c = true)
    (tokensAt : TokensAt (offset + byteLength blanks) text tokens) :
    TokensAt offset (blanks ++ text) tokens := by
  induction blanks generalizing offset with
  | nil => simpa using tokensAt
  | cons c rest hypothesis =>
      rw [byteLength_cons, ← Nat.add_assoc] at tokensAt
      exact .blank (allBlank c (by simp))
        (hypothesis (fun d member => allBlank d (by simp [member])) tokensAt)

/-- A text with a first token is blanks and a text that starts with it. -/
theorem cut_blanks
    {offset : Nat}
    {text : List Char}
    {first : Token}
    {tokens : List Token}
    (tokensAt : TokensAt offset text (first :: tokens)) :
    ∃ blanks rest, text = blanks ++ rest ∧
      (∀ c ∈ blanks, isBlank c = true) ∧
      (∃ c, rest.head? = some c ∧ isBlank c = false) ∧
      TokensAt (offset + byteLength blanks) rest (first :: tokens) := by
  generalize given : first :: tokens = read at tokensAt
  induction tokensAt with
  | nil => exact absurd given (by simp)
  | @blank offset c rest read isBlank _ hypothesis =>
      obtain ⟨blanks, more, rfl, allBlank, head, moreAt⟩ := hypothesis given
      refine ⟨c :: blanks, more, rfl, ?_, head, ?_⟩
      · intro d member
        rcases List.mem_cons.mp member with rfl | member
        · exact isBlank
        · exact allBlank d member
      · rwa [byteLength_cons, ← Nat.add_assoc]
  | @token offset kind lexeme rest read isLexeme longest restAt _ =>
      refine ⟨[], lexeme ++ rest, rfl, by simp, ?_,
        .token isLexeme longest restAt⟩
      cases lexeme with
      | nil => exact absurd rfl isLexeme.ne_nil
      | cons c more =>
          exact ⟨c, rfl, isBlank_eq_false_of_isTypeChar
            (isLexeme.isTypeChar_of_mem List.mem_cons_self)⟩

/-! ## Cutting and joining -/

theorem ne_nil
    {offset : Nat}
    {text : List Char}
    {first : Token}
    {tokens : List Token}
    (tokensAt : TokensAt offset text (first :: tokens)) :
    text ≠ [] := by
  obtain ⟨blanks, rest, rfl, _, ⟨c, head, _⟩, _⟩ := tokensAt.cut_blanks
  intro empty
  obtain ⟨_, rfl⟩ := List.append_eq_nil_iff.mp empty
  exact absurd head (by simp)

/-- A text can be cut right behind any of its tokens. -/
theorem cut
    {offset : Nat}
    {text : List Char}
    {before after : List Token}
    (tokensAt : TokensAt offset text (before ++ after)) :
    ∃ left right, text = left ++ right ∧ TokensAt offset left before ∧
      (∀ c, left.getLast? = some c → isBlank c = false) ∧
      TokensAt (offset + byteLength left) right after := by
  generalize given : before ++ after = read at tokensAt
  induction tokensAt generalizing before with
  | nil offset =>
      obtain ⟨rfl, rfl⟩ := List.append_eq_nil_iff.mp given
      exact ⟨[], [], rfl, .nil offset, by simp, .nil _⟩
  | @blank offset c rest read isBlank restAt hypothesis =>
      cases before with
      | nil =>
          refine ⟨[], c :: rest, rfl, .nil offset, by simp, ?_⟩
          rw [List.nil_append] at given
          exact given ▸ .blank isBlank restAt
      | cons first more =>
          obtain ⟨left, right, rfl, leftAt, last, rightAt⟩ := hypothesis given
          refine ⟨c :: left, right, rfl, .blank isBlank leftAt, ?_, ?_⟩
          · rwa [List.getLast?_cons_of_ne_nil leftAt.ne_nil]
          · rwa [byteLength_cons, ← Nat.add_assoc]
  | @token offset kind lexeme rest read isLexeme longest restAt hypothesis =>
      cases before with
      | nil =>
          refine ⟨[], lexeme ++ rest, rfl, .nil offset, by simp, ?_⟩
          rw [List.nil_append] at given
          exact given ▸ .token isLexeme longest restAt
      | cons first more =>
          rw [List.cons_append] at given
          obtain ⟨rfl, moreGiven⟩ := List.cons.inj given
          obtain ⟨left, right, rfl, leftAt, last, rightAt⟩ :=
            hypothesis moreGiven
          rw [← List.append_assoc] at longest ⊢
          refine ⟨lexeme ++ left, right, rfl, .token isLexeme ?_ leftAt, ?_, ?_⟩
          · intro other text otherLexeme start
            exact longest other text otherLexeme
              (start.trans (List.prefix_append _ _))
          · intro d found
            rw [List.getLast?_append] at found
            cases ends : left.getLast? with
            | none =>
                simp only [ends, Option.none_or] at found
                exact isBlank_eq_false_of_isTypeChar
                  (isLexeme.isTypeChar_of_mem (List.mem_of_getLast? found))
            | some e =>
                obtain rfl : e = d := by simpa [ends] using found
                exact last e ends
          · rwa [byteLength_append, ← Nat.add_assoc]

end TokensAt

/-- A text that cannot make the last token of a text before it longer. -/
def StartsApart (text : List Char) : Prop :=
  ∀ c, text.head? = some c → isNameChar c = false ∧ c ≠ ':'

theorem startsApart_of_isBlank
    {c : Char}
    (blank : isBlank c = true)
    (rest : List Char) :
    StartsApart (c :: rest) := by
  rintro d ⟨⟩
  refine ⟨isNameChar_eq_false_of_isBlank blank, ?_⟩
  rintro rfl
  exact absurd blank (by decide)

theorem startsApart_of_isPunctuation
    {c : Char}
    (punctuation : isPunctuation c = true)
    (rest : List Char) :
    StartsApart (c :: rest) := by
  rintro d ⟨⟩
  obtain ⟨notName, notColon, _⟩ :=
    isNameChar_eq_false_of_isPunctuation punctuation
  exact ⟨notName, notColon⟩

/-- Behind its first character, every lexeme but an arrow goes on with name
characters and colons. -/
theorem Lexeme.mem_tail_cases
    {kind : TokenKind}
    {c d : Char}
    {rest : List Char}
    (isLexeme : Lexeme kind (c :: rest))
    (notArrow : c ≠ '=')
    (member : d ∈ rest) :
    d = ':' ∨ isNameChar d = true := by
  rcases isLexeme.cons_cases with ⟨_, rfl⟩ | ⟨equal, _⟩ | ⟨_, isWord⟩ | tail
  · simp at member
  · exact absurd equal notArrow
  · exact Or.inr (isWord.2 d member)
  · exact tail.mem_cases (List.mem_cons_of_mem c member)

/-- Every lexeme that starts with an equals sign is an arrow. -/
theorem Lexeme.eq_arrow
    {kind : TokenKind}
    {rest : List Char}
    (isLexeme : Lexeme kind ('=' :: rest)) :
    rest = ['>'] := by
  rcases isLexeme.cons_cases with
    ⟨punctuation, _⟩ | ⟨_, arrow⟩ | ⟨hash, _⟩ | tail
  · exact absurd punctuation (by decide)
  · exact arrow
  · exact absurd hash (by decide)
  · exact absurd (tail.mem_cases List.mem_cons_self) (by decide)

/-- A longest lexeme stays the longest when a text that starts apart follows. -/
theorem IsLongest.append
    {kind : TokenKind}
    {lexeme rest : List Char}
    (isLexeme : Lexeme kind lexeme)
    (longest : IsLongest lexeme (lexeme ++ rest))
    {right : List Char}
    (apart : StartsApart right) :
    IsLongest lexeme (lexeme ++ (rest ++ right)) := by
  intro other text otherLexeme start
  obtain ⟨after, joined⟩ := start
  rw [← List.append_assoc] at joined
  rcases List.append_eq_append_iff.mp joined with
    ⟨left, inside, _⟩ | ⟨beyond, rfl, rfl⟩
  · exact longest other text otherLexeme ⟨left, inside.symm⟩
  · cases beyond with
    | nil => exact longest other _ otherLexeme (by simp)
    | cons d more =>
        cases lexeme with
        | nil => exact absurd rfl isLexeme.ne_nil
        | cons c tail =>
            by_cases arrow : c = '='
            · -- Both lexemes would be arrows, but one is longer.
              subst arrow
              obtain rfl := isLexeme.eq_arrow
              have same : ['>'] ++ rest ++ d :: more = ['>'] :=
                otherLexeme.eq_arrow
              exact absurd (congrArg List.length same) (by simp)
            · obtain ⟨notName, notColon⟩ := apart d rfl
              rcases otherLexeme.mem_tail_cases arrow (d := d) (by simp) with
                colon | nameChar
              · exact absurd colon notColon
              · exact absurd nameChar (by simp [notName])

/-- Two texts can be joined when the second starts apart. -/
theorem TokensAt.append
    {offset : Nat}
    {left right : List Char}
    {before after : List Token}
    (leftAt : TokensAt offset left before)
    (apart : StartsApart right)
    (rightAt : TokensAt (offset + byteLength left) right after) :
    TokensAt offset (left ++ right) (before ++ after) := by
  induction leftAt with
  | nil => simpa using rightAt
  | blank isBlank _ hypothesis =>
      rw [byteLength_cons, ← Nat.add_assoc] at rightAt
      exact .blank isBlank (hypothesis rightAt)
  | token isLexeme longest _ hypothesis =>
      rw [byteLength_append, ← Nat.add_assoc] at rightAt
      rw [List.append_assoc]
      exact .token isLexeme (longest.append isLexeme apart)
        (hypothesis rightAt)

/-! ## Positions at the ends -/

namespace TokensAt

/-- A text that starts with no blank has its first token at its start. -/
theorem head_start
    {offset : Nat}
    {text : List Char}
    {tokens : List Token}
    (tokensAt : TokensAt offset text tokens)
    {c : Char}
    (head : text.head? = some c)
    (notBlank : isBlank c = false) :
    tokens.head?.map Token.start = some offset := by
  cases tokensAt with
  | nil => exact absurd head (by simp)
  | blank isBlank =>
      obtain rfl : _ = c := Option.some.inj head
      exact absurd isBlank (by simp [notBlank])
  | token => rfl

/-- A text that ends with no blank has its last token at its end. -/
theorem last_stop
    {offset : Nat}
    {text : List Char}
    {tokens : List Token}
    (tokensAt : TokensAt offset text tokens)
    {c : Char}
    (last : text.getLast? = some c)
    (notBlank : isBlank c = false) :
    tokens.getLast?.map Token.stop = some (offset + byteLength text) := by
  induction tokensAt with
  | nil => exact absurd last (by simp)
  | @blank offset d rest tokens isBlank restAt hypothesis =>
      cases rest with
      | nil =>
          obtain rfl : d = c := by simpa using last
          exact absurd isBlank (by simp [notBlank])
      | cons e more =>
          rw [List.getLast?_cons_cons] at last
          rw [hypothesis last, byteLength_cons (c := d), Nat.add_assoc]
  | @token offset kind lexeme rest tokens isLexeme longest restAt hypothesis =>
      cases rest with
      | nil =>
          cases tokens with
          | nil => simp
          | cons => exact absurd rfl restAt.ne_nil
      | cons e more =>
          rw [List.getLast?_append_cons] at last
          have stop := hypothesis last
          rw [List.getLast?_cons_of_ne_nil, stop, byteLength_append,
            Nat.add_assoc]
          rintro rfl
          exact absurd stop (by simp)

end TokensAt
end DocLint
