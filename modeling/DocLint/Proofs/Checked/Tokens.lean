import DocLint.Proofs.BodyPlaces
import DocLint.Proofs.Checked.Cuts
import DocLint.Proofs.Lexing

/-!
# Reading one token at a byte position

The tokens of a text are read one after the other, each from the byte position
where the one before it stops.  Names are measured in bytes: a loop adds the
length of one part after the other and cuts the text anew for each of them.
Every position that comes up is one where the text can be cut, and the token
that is read is the next one of `Lexed.ofChars`.
-/

namespace DocLint
namespace Checked

open Text

/-- Why reading types stops: something is wrong with the types, or with the
computation. -/
inductive Failure
  | fault (fault : Fault)
  | refused (error : SyntaxError)
  deriving DecidableEq, Repr

instance : MonadLift (Except Fault) (Except Failure) where
  monadLift := Except.mapError Failure.fault

@[simp] theorem liftM_ok
    {α : Type}
    (value : α) :
    (liftM (Except.ok value : Except Fault α) : Except Failure α) =
      .ok value := rfl

/-! ## The length of a name -/

/-- Number of bytes of the word that a text starts with. -/
def wordLength (text : List Char) : Nat :=
  byteLength (text.takeWhile isNameChar)

/-- The length of a double colon that a text starts with, and what follows
it. -/
def cutScope : List Char → Nat × List Char
  | ':' :: ':' :: body => (2, body)
  | rest => (0, rest)

/-- Number of bytes of the name that a text starts with, when some of them are
known.  Each round adds a word, with a double colon if one stands in front of
it. -/
def nameLength (text : List Char) : Nat → Nat → Except Fault Nat
  | 0, _ => .error .standstill
  | rounds + 1, length => do
    let rest ← partFrom text length
    let (scope, body) := cutScope rest
    let word := wordLength body
    if word = 0 then
      return length
    else
      nameLength text rounds (length + (scope + word))

section NameTail

theorem nameTail_cons
    {c : Char}
    {rest : List Char}
    (notColon : c ≠ ':') :
    Token.nameTail (c :: rest) =
      if isNameChar c = true then Token.nameTail rest + 1 else 0 := by
  rw [Token.nameTail]
  intro d more colon
  exact absurd colon notColon

/-- The characters of a word belong to the name that the word stands in. -/
theorem nameTail_append
    {word : List Char}
    (nameChars : ∀ c ∈ word, isNameChar c = true)
    (rest : List Char) :
    Token.nameTail (word ++ rest) = word.length + Token.nameTail rest := by
  induction word with
  | nil => simp
  | cons c word hypothesis =>
      have nameChar : isNameChar c = true := nameChars c (by simp)
      have notColon : c ≠ ':' := by
        rintro rfl
        exact absurd nameChar (by decide)
      have onward := hypothesis fun d member => nameChars d (by simp [member])
      rw [List.cons_append, nameTail_cons notColon, if_pos nameChar, onward,
        List.length_cons]
      omega

theorem nameTail_eq_zero
    {text : List Char}
    (noScope : ∀ body, text ≠ ':' :: ':' :: body)
    (noWord : text.takeWhile isNameChar = []) :
    Token.nameTail text = 0 := by
  fun_cases Token.nameTail text with
  | case1 c rest => exact absurd rfl (noScope (c :: rest))
  | case2 => rfl
  | case3 c rest _ nameChar => simp [nameChar] at noWord
  | case4 => rfl
  | case5 => rfl

/-- The same for a word with two colons in front of it. -/
theorem nameTail_scope_append
    {word : List Char}
    (nameChars : ∀ c ∈ word, isNameChar c = true)
    (nonempty : word ≠ [])
    (rest : List Char) :
    Token.nameTail (':' :: ':' :: word ++ rest) =
      word.length + 2 + Token.nameTail rest := by
  cases word with
  | nil => exact absurd rfl nonempty
  | cons c word =>
      have onward := nameTail_append
        (fun d member => nameChars d (List.mem_cons_of_mem c member)) rest
      simp only [List.cons_append, Token.nameTail, nameChars c (by simp),
        if_true, onward, List.length_cons]
      omega

theorem nameTail_scope_eq_zero
    {body : List Char}
    (noWord : body.takeWhile isNameChar = []) :
    Token.nameTail (':' :: ':' :: body) = 0 := by
  cases body with
  | nil => rfl
  | cons c rest =>
      rw [Token.nameTail, if_neg]
      intro nameChar
      simp [nameChar] at noWord

/-- A text starts with two colons or nothing, and a word.  The word decides how
many characters belong to a name. -/
theorem exists_word (text : List Char) :
    ∃ scope word rest, text = scope ++ word ++ rest ∧
      cutScope text = (byteLength scope, word ++ rest) ∧
      wordLength (word ++ rest) = byteLength word ∧
      (word = [] → Token.nameTail text = 0) ∧
      (word ≠ [] → Token.nameTail text =
        (scope ++ word).length + Token.nameTail rest) := by
  have whole (body : List Char) :
      body.takeWhile isNameChar ++ body.dropWhile isNameChar = body :=
    List.takeWhile_append_dropWhile
  have nameChars (body : List Char) (c : Char)
      (member : c ∈ body.takeWhile isNameChar) : isNameChar c = true :=
    List.mem_takeWhile_imp member
  unfold cutScope
  split
  · rename_i body
    refine ⟨[':', ':'], body.takeWhile isNameChar, body.dropWhile isNameChar,
      ?_, ?_, ?_, nameTail_scope_eq_zero, ?_⟩
    · rw [List.append_assoc, whole]
      rfl
    · rw [whole]
      rfl
    · rw [whole, wordLength]
    · intro nonempty
      have counted := nameTail_scope_append (nameChars body) nonempty
        (body.dropWhile isNameChar)
      simp only [List.cons_append, whole] at counted
      rw [counted]
      simp
  · rename_i noScope
    refine ⟨[], text.takeWhile isNameChar, text.dropWhile isNameChar, ?_, ?_, ?_,
      nameTail_eq_zero noScope, ?_⟩
    · rw [List.nil_append, whole]
    · rw [whole]
      rfl
    · rw [whole, wordLength]
    · intro _
      have counted := nameTail_append (nameChars text)
        (text.dropWhile isNameChar)
      rw [whole] at counted
      exact counted

end NameTail

/-- The length that is found is that of the longest name. -/
theorem nameLength_eq
    {rounds : Nat}
    {rest : List Char}
    (enough : rest.length < rounds)
    (before : List Char) :
    nameLength (before ++ rest) rounds (byteLength before) =
      .ok (byteLength before +
        byteLength (rest.take (Token.nameTail rest))) := by
  induction rounds generalizing before rest with
  | zero => omega
  | succ rounds hypothesis =>
      obtain ⟨scope, word, after, restEq, scopeEq, wordEq, noName, name⟩ :=
        exists_word rest
      rw [nameLength, partFrom_append, ok_bind, scopeEq]
      dsimp only
      rw [wordEq]
      by_cases noWord : word = []
      · rw [noName noWord, noWord]
        rfl
      · have positive := byteLength_pos noWord
        rw [if_neg (Nat.ne_of_gt positive), name noWord, restEq]
        -- What is read so far goes in front of what is left.
        have shorter : after.length < rounds := by
          have lengths := congrArg List.length restEq
          have wordPositive := List.length_pos_iff.mpr noWord
          simp only [List.length_append] at lengths
          omega
        have onward := hypothesis shorter (before ++ (scope ++ word))
        simp only [byteLength_append, List.append_assoc] at onward ⊢
        rw [onward, ← List.append_assoc, List.take_length_add_append]
        simp only [byteLength_append, Nat.add_assoc]

/-! ## The next token -/

/-- A token, or the end of the text, with the byte positions where it starts and
stops. -/
structure Seen where
  kind : Option TokenKind
  start : Nat
  stop : Nat
  deriving DecidableEq, Repr

/-- The name of some bytes that a text starts with. -/
def nameOf
    (text : List Char)
    (length : Nat) : Except Failure (TokenKind × Nat) := do
  let name ← partBetween text 0 length
  return (.name (String.ofList name), length)

/-- The name that starts with a character, and its number of bytes. -/
def nameAt
    (start : Nat)
    (c : Char)
    (rest : List Char) : Except Failure (TokenKind × Nat) := do
  let length ← nameLength (c :: rest) (rest.length + 2) 0
  if length = 0 then
    throw (.refused ⟨.invalidCharacter c, start⟩)
  else
    nameOf (c :: rest) length

/-- What the token that starts with a character stands for, and its number of
bytes. -/
def lexemeAt
    (start : Nat)
    (c : Char)
    (rest : List Char) : Except Failure (TokenKind × Nat) :=
  match c with
  | '<' => .ok (.opening .angle, 1)
  | '>' => .ok (.closing .angle, 1)
  | '(' => .ok (.opening .paren, 1)
  | ')' => .ok (.closing .paren, 1)
  | '\x7b' => .ok (.opening .brace, 1)
  | '\x7d' => .ok (.closing .brace, 1)
  | ',' => .ok (.separator, 1)
  | ';' => .ok (.separator, 1)
  | '=' => if rest.head? = some '>' then .ok (.arrow, 2) else nameAt start c rest
  | '#' => do
    let word ← partFrom (c :: rest) 1
    let length := 1 + wordLength word
    if length = 1 then
      throw (.refused ⟨.invalidCharacter c, start⟩)
    else
      nameOf (c :: rest) length
  | _ => nameAt start c rest

/-- Read a token from a byte position on. -/
def tokenAt (text : List Char) (position : Nat) : Except Failure Seen := do
  let rest ← partFrom text position
  let blanks ← subtract (byteLength rest) (byteLength (trimStart rest))
  let start := position + blanks
  let rest ← partFrom text start
  match rest with
  | [] => return ⟨none, start, start⟩
  | c :: rest =>
    let (kind, length) ← lexemeAt start c rest
    return ⟨some kind, start, start + length⟩

section Lexemes

theorem nameOf_take (text : List Char) (length : Nat) :
    nameOf text (byteLength (text.take length)) =
      .ok (.name (String.ofList (text.take length)),
        byteLength (text.take length)) := by
  have whole := partBetween_append [] (text.take length) (text.drop length)
  simp only [List.nil_append, byteLength_nil, Nat.zero_add,
    List.take_append_drop] at whole
  rw [nameOf, whole]
  rfl

variable (start : Nat)
variable {c : Char}
variable {rest : List Char}

theorem nameAt_eq :
    nameAt start c rest =
      if byteLength ((c :: rest).take (Token.nameTail (c :: rest))) = 0 then
        .error (.refused ⟨.invalidCharacter c, start⟩)
      else
        nameOf (c :: rest)
          (byteLength ((c :: rest).take (Token.nameTail (c :: rest)))) := by
  have enough : (c :: rest).length < rest.length + 2 := by simp
  have length := nameLength_eq enough []
  simp only [List.nil_append, byteLength_nil, Nat.zero_add] at length
  rw [nameAt, length, liftM_ok, ok_bind]
  rfl

/-- No name is read where none stands. -/
theorem nameAt_of_nameTail_eq_zero
    (counted : Token.nameTail (c :: rest) = 0) :
    nameAt start c rest =
      .error (.refused ⟨.invalidCharacter c, start⟩) := by
  rw [nameAt_eq, counted, List.take_zero, byteLength_nil, if_pos rfl]

/-- The name that is read has all characters that belong to it. -/
theorem nameAt_of_nameTail_eq_succ
    {length : Nat}
    (counted : Token.nameTail (c :: rest) = length + 1) :
    nameAt start c rest =
      .ok (.name (String.ofList (c :: rest.take length)),
        byteLength (c :: rest.take length)) := by
  have positive : byteLength (c :: rest.take length) ≠ 0 :=
    Nat.ne_of_gt (byteLength_pos (by simp))
  rw [nameAt_eq, counted, List.take_succ_cons, if_neg positive,
    ← List.take_succ_cons, nameOf_take]

/-- The name behind a number sign is a word. -/
theorem lexemeAt_hash :
    lexemeAt start '#' rest =
      if rest.takeWhile isNameChar = [] then
        .error (.refused ⟨.invalidCharacter '#', start⟩)
      else
        .ok (.name (String.ofList ('#' :: rest.takeWhile isNameChar)),
          byteLength ('#' :: rest.takeWhile isNameChar)) := by
  have behind : partFrom ('#' :: rest) 1 = .ok rest := partFrom_append ['#'] rest
  have named := nameOf_take ('#' :: rest)
    ((rest.takeWhile isNameChar).length + 1)
  have taken : rest.take (rest.takeWhile isNameChar).length =
      rest.takeWhile isNameChar :=
    (List.prefix_iff_eq_take.mp (List.takeWhile_prefix _)).symm
  rw [List.take_succ_cons, taken] at named
  simp only [lexemeAt, behind, liftM_ok, ok_bind]
  by_cases noWord : rest.takeWhile isNameChar = []
  · have length : 1 + wordLength rest = 1 := by
      rw [wordLength, noWord]
      rfl
    rw [if_pos length, if_pos noWord]
    rfl
  · have length : 1 + wordLength rest ≠ 1 := by
      have positive := byteLength_pos noWord
      rw [wordLength]
      omega
    rw [if_neg length, if_neg noWord]
    exact named

/-- What is read at a character, given the token that the lexical grammar has
there. -/
def measured (c : Char) (rest : List Char) :
    Option (TokenKind × Nat) → Except Failure (TokenKind × Nat)
  | none => .error (.refused ⟨.invalidCharacter c, start⟩)
  | some (kind, length) => .ok (kind, byteLength (c :: rest.take length))

/-- The token that is read at a character is the one of the lexical grammar. -/
theorem lexemeAt_eq :
    lexemeAt start c rest =
      measured start c rest (Token.kindAt? c rest) := by
  fun_cases Token.kindAt? c rest
  case case9 head =>
    obtain ⟨more, rfl⟩ : ∃ more, rest = '>' :: more := by
      cases rest with
      | nil => simp at head
      | cons d more => exact ⟨more, by simpa using head⟩
    rfl
  case case10 head =>
    simp only [lexemeAt, if_neg head]
    refine nameAt_of_nameTail_eq_zero start ?_
    rw [nameTail_cons (by decide), if_neg (by decide)]
  case case11 noWord =>
    rw [lexemeAt_hash, if_pos (List.length_eq_zero_iff.mp noWord)]
    rfl
  case case12 named word =>
    have taken : rest.take (rest.takeWhile isNameChar).length =
        rest.takeWhile isNameChar :=
      (List.prefix_iff_eq_take.mp (List.takeWhile_prefix _)).symm
    rw [lexemeAt_hash, if_neg (mt List.length_eq_zero_iff.mpr word)]
    simp only [measured, named, taken]
  case case13 d more nameChar named =>
    exact nameAt_of_nameTail_eq_succ start (by simp [Token.nameTail, nameChar])
  case case14 d more noName =>
    exact nameAt_of_nameTail_eq_zero start (by simp [Token.nameTail, noName])
  case case15 noScope =>
    have noName : isNameChar ':' = false := by decide
    refine nameAt_of_nameTail_eq_zero start ?_
    rw [Token.nameTail, noName]
    · rfl
    · rintro d more - rfl
      exact noScope d more rfl
  case case16 nameChar _ _ _ _ _ _ _ _ _ _ notColon named =>
    rw [lexemeAt, if_pos nameChar]
    · refine nameAt_of_nameTail_eq_succ start ?_
      rw [nameTail_cons notColon, if_pos nameChar]
    all_goals assumption
  case case17 noName _ _ _ _ _ _ _ _ _ _ notColon named =>
    rw [lexemeAt, if_neg noName]
    · refine nameAt_of_nameTail_eq_zero start ?_
      rw [nameTail_cons notColon, if_neg noName]
    all_goals assumption
  all_goals rfl

end Lexemes

section Tokens

/-- The first of some tokens, or the end of the text, or the character that
starts no token. -/
def seenFirst : Lexed → Except Failure Seen
  | ⟨[], .endOfText offset⟩ => .ok ⟨none, offset, offset⟩
  | ⟨[], .invalid c offset⟩ => .error (.refused ⟨.invalidCharacter c, offset⟩)
  | ⟨token :: _, _⟩ => .ok ⟨some token.kind, token.start, token.stop⟩

theorem ofChars_eq_trimStart (offset : Nat) (text : List Char) :
    Lexed.ofChars offset text =
      Lexed.ofChars (offset + byteLength (leadingBlanks text))
        (trimStart text) := by
  induction text generalizing offset with
  | nil => rfl
  | cons c rest hypothesis =>
      by_cases blank : isBlank c = true
      · have blanks : leadingBlanks (c :: rest) = c :: leadingBlanks rest := by
          simp [leadingBlanks, blank]
        have trimmed : trimStart (c :: rest) = trimStart rest := by
          simp [trimStart, blank]
        rw [Lexed.ofChars, if_pos blank, hypothesis, blanks, trimmed,
          byteLength_cons, Nat.add_assoc]
      · simp [leadingBlanks, trimStart, blank]

/-- Reading a token where a text can be cut gives the first token of what
follows there. -/
theorem tokenAt_eq (before rest : List Char) :
    tokenAt (before ++ rest) (byteLength before) =
      seenFirst (Lexed.ofChars (byteLength before) rest) := by
  rw [ofChars_eq_trimStart, tokenAt, partFrom_append, liftM_ok, ok_bind,
    subtract_trimStart, liftM_ok, ok_bind]
  dsimp only
  rw [partFrom_blanks, liftM_ok, ok_bind]
  cases trimmed : trimStart rest with
  | nil =>
      rw [Lexed.ofChars]
      rfl
  | cons c rest =>
      dsimp only
      rw [lexemeAt_eq, Lexed.ofChars,
        if_neg (by simp [isBlank_eq_false_of_trimStart trimmed])]
      cases Token.kindAt? c rest with
      | none => rfl
      | some found => rfl

variable {offset : Nat}
variable {text : List Char}
variable {token : Token}
variable {tokens : List Token}
variable {ending : Ending}

/-- A text can be cut in front of its first token and behind it, and the other
tokens follow there. -/
theorem exists_lexeme
    (lexed : Lexed.ofChars offset text = ⟨token :: tokens, ending⟩) :
    ∃ blanks lexeme rest, text = blanks ++ lexeme ++ rest ∧
      Lexeme token.kind lexeme ∧
      token.start = offset + byteLength blanks ∧
      token.stop = token.start + byteLength lexeme ∧
      Lexed.ofChars token.stop rest = ⟨tokens, ending⟩ := by
  rw [ofChars_eq_trimStart] at lexed
  cases trimmed : trimStart text with
  | nil =>
      rw [trimmed, Lexed.ofChars] at lexed
      exact absurd lexed (by simp)
  | cons c rest =>
      rw [trimmed, Lexed.ofChars,
        if_neg (by simp [isBlank_eq_false_of_trimStart trimmed])] at lexed
      cases found : Token.kindAt? c rest with
      | none =>
          rw [found] at lexed
          exact absurd lexed (by simp)
      | some result =>
          obtain ⟨kind, length⟩ := result
          obtain ⟨_, isLexeme, _⟩ := Token.kindAt?_eq_some found
          rw [found] at lexed
          simp only [Lexed.mk.injEq, List.cons.injEq] at lexed
          obtain ⟨⟨rfl, rfl⟩, rfl⟩ := lexed
          refine ⟨leadingBlanks text, c :: rest.take length, rest.drop length,
            ?_, isLexeme, rfl, rfl, rfl⟩
          rw [List.append_assoc, List.cons_append, List.take_append_drop,
            ← trimmed, leadingBlanks_append_trimStart]

/-- There are no more tokens than characters. -/
theorem length_tokens_le (offset : Nat) (text : List Char) :
    (Lexed.ofChars offset text).tokens.length ≤ text.length := by
  fun_induction Lexed.ofChars offset text with
  | case1 => simp
  | case2 offset c rest _ hypothesis =>
      rw [List.length_cons]
      omega
  | case3 => simp
  | case4 offset c rest _ kind length _ stop lexed hypothesis =>
      have shorter := List.length_drop (i := length) (l := rest)
      simp only [List.length_cons, lexed]
      omega

/-- An opening bracket is one byte. -/
theorem stop_of_opening
    (lexed : Lexed.ofChars offset text = ⟨token :: tokens, ending⟩)
    {bracket : Bracket}
    (opening : token.kind = .opening bracket) :
    token.stop = token.start + 1 := by
  obtain ⟨_, lexeme, _, _, isLexeme, _, stop, _⟩ := exists_lexeme lexed
  rw [opening] at isLexeme
  cases isLexeme
  rw [stop]
  cases bracket <;> rfl

end Tokens

end Checked
end DocLint
