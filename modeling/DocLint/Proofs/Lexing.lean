import DocLint.Proofs.CharClass
import DocLint.TypeExpr.Token

/-!
# The tokens of a text

The lexical grammar of type expressions is stated on its own: `Lexeme` says
which texts spell which tokens, and `TokensAt` says that a text is a sequence
of blanks and lexemes, each lexeme the longest that starts at its place.
`Lexed.ofChars` computes exactly this relation.  The relation is closed under
cutting a text behind a token and under joining two texts that do not run
together, which is how later modules reason about parts of a text.
-/

namespace DocLint

open Text

/-! ## The lexical grammar -/

/-- A non-empty run of name characters. -/
def IsWord (text : List Char) : Prop :=
  text ≠ [] ∧ ∀ c ∈ text, isNameChar c = true

instance (text : List Char) : Decidable (IsWord text) :=
  decidable_of_iff (text ≠ [] ∧ text.all isNameChar = true)
    (and_congr_right fun _ => List.all_eq_true)

/-- A word, or a word behind a double colon. -/
inductive IsNamePart : List Char → Prop
  | word {text : List Char} : IsWord text → IsNamePart text
  | qualified {text : List Char} :
      IsWord text → IsNamePart (':' :: ':' :: text)

/-- One or more name parts. -/
inductive IsPath : List Char → Prop
  | one {part : List Char} : IsNamePart part → IsPath part
  | more {part rest : List Char} :
      IsNamePart part → IsPath rest → IsPath (part ++ rest)

/-- A name: a number sign and a word, or a path. -/
inductive IsName : List Char → Prop
  | hash {word : List Char} : IsWord word → IsName ('#' :: word)
  | path {text : List Char} : IsPath text → IsName text

/-- The texts that spell a token. -/
inductive Lexeme : TokenKind → List Char → Prop
  | name {text : List Char} :
      IsName text → Lexeme (.name (String.ofList text)) text
  | opening (bracket : Bracket) :
      Lexeme (.opening bracket) [bracket.openChar]
  | closing (bracket : Bracket) :
      Lexeme (.closing bracket) [bracket.closeChar]
  | arrow : Lexeme .arrow ['=', '>']
  | comma : Lexeme .separator [',']
  | semicolon : Lexeme .separator [';']

/-- No lexeme that the text starts with is longer than the given one. -/
def IsLongest (lexeme text : List Char) : Prop :=
  ∀ (kind : TokenKind) (other : List Char),
    Lexeme kind other → other <+: text → other.length ≤ lexeme.length

/-- A text that starts at a byte position is read as these tokens: blanks are
passed over, and each token is the longest at its place. -/
inductive TokensAt : Nat → List Char → List Token → Prop
  | nil (offset : Nat) : TokensAt offset [] []
  | blank {offset : Nat} {c : Char} {rest : List Char} {tokens : List Token} :
      isBlank c = true →
      TokensAt (offset + c.utf8Size) rest tokens →
      TokensAt offset (c :: rest) tokens
  | token {offset : Nat} {kind : TokenKind} {lexeme rest : List Char}
      {tokens : List Token} :
      Lexeme kind lexeme →
      IsLongest lexeme (lexeme ++ rest) →
      TokensAt (offset + byteLength lexeme) rest tokens →
      TokensAt offset (lexeme ++ rest)
        (⟨kind, offset, offset + byteLength lexeme⟩ :: tokens)

/-! ## Characters of names

Read from left to right, a path goes on with a name character, or with a double
colon in front of one.  This is the form in which the length of a name is
computed. -/

/-- What may follow inside a path. -/
inductive IsPathTail : List Char → Prop
  | nil : IsPathTail []
  | char {c : Char} {rest : List Char} :
      isNameChar c = true → IsPathTail rest → IsPathTail (c :: rest)
  | scope {c : Char} {rest : List Char} :
      isNameChar c = true → IsPathTail rest →
      IsPathTail (':' :: ':' :: c :: rest)

theorem IsPathTail.append
    {left right : List Char}
    (leftTail : IsPathTail left)
    (rightTail : IsPathTail right) :
    IsPathTail (left ++ right) := by
  induction leftTail with
  | nil => exact rightTail
  | char nameChar _ hypothesis => exact .char nameChar hypothesis
  | scope nameChar _ hypothesis => exact .scope nameChar hypothesis

theorem isPathTail_of_all
    {text : List Char}
    (nameChars : ∀ c ∈ text, isNameChar c = true) :
    IsPathTail text := by
  induction text with
  | nil => exact .nil
  | cons c rest hypothesis =>
      exact .char (nameChars c (by simp))
        (hypothesis fun d member => nameChars d (by simp [member]))

theorem IsNamePart.isPathTail
    {part : List Char}
    (isPart : IsNamePart part) :
    IsPathTail part ∧ part ≠ [] := by
  cases isPart with
  | word isWord => exact ⟨isPathTail_of_all isWord.2, isWord.1⟩
  | qualified isWord =>
      rename_i text
      obtain ⟨nonempty, nameChars⟩ := isWord
      cases text with
      | nil => exact absurd rfl nonempty
      | cons c rest =>
          refine ⟨.scope (nameChars c (by simp)) (isPathTail_of_all ?_), by simp⟩
          intro d member
          exact nameChars d (by simp [member])

theorem IsPath.isPathTail
    {text : List Char}
    (path : IsPath text) :
    IsPathTail text ∧ text ≠ [] := by
  induction path with
  | one isPart => exact isPart.isPathTail
  | more isPart _ hypothesis =>
      obtain ⟨partTail, partNonempty⟩ := isPart.isPathTail
      exact ⟨partTail.append hypothesis.1, by simp [partNonempty]⟩

theorem isWord_of_all
    {text : List Char}
    (nonempty : text ≠ [])
    (nameChars : text.all isNameChar = true) :
    IsWord text :=
  ⟨nonempty, List.all_eq_true.mp nameChars⟩

theorem isWord_singleton
    {c : Char}
    (nameChar : isNameChar c = true) :
    IsWord [c] :=
  ⟨by simp, by simpa using nameChar⟩

theorem IsPathTail.isPath
    {text : List Char}
    (tail : IsPathTail text)
    (nonempty : text ≠ []) :
    IsPath text := by
  induction tail with
  | nil => exact absurd rfl nonempty
  | @char c rest nameChar _ hypothesis =>
      have first := IsNamePart.word (isWord_singleton nameChar)
      cases rest with
      | nil => exact .one first
      | cons d more => exact .more first (hypothesis (by simp))
  | @scope c rest nameChar _ hypothesis =>
      have first := IsNamePart.qualified (isWord_singleton nameChar)
      cases rest with
      | nil => exact .one first
      | cons d more => exact .more first (hypothesis (by simp))

/-! ## The length of a name -/

namespace Token

theorem nameTail_le_length (text : List Char) :
    nameTail text ≤ text.length := by
  fun_induction nameTail text with
  | case1 c rest nameChar hypothesis =>
      simp only [List.length_cons]
      omega
  | case2 => exact Nat.zero_le _
  | case3 c rest _ nameChar hypothesis =>
      simp only [List.length_cons]
      omega
  | case4 => exact Nat.zero_le _
  | case5 => exact Nat.zero_le _

/-- The characters counted go on as paths do. -/
theorem isPathTail_take_nameTail (text : List Char) :
    IsPathTail (text.take (nameTail text)) := by
  fun_induction nameTail text with
  | case1 c rest nameChar hypothesis => exact .scope nameChar hypothesis
  | case2 => exact .nil
  | case3 c rest _ nameChar hypothesis => exact .char nameChar hypothesis
  | case4 => exact .nil
  | case5 => exact .nil

/-- No more characters go on as paths do than are counted. -/
theorem length_le_nameTail
    {tail text : List Char}
    (isTail : IsPathTail tail)
    (start : tail <+: text) :
    tail.length ≤ nameTail text := by
  induction isTail generalizing text with
  | nil => exact Nat.zero_le _
  | @char c rest nameChar _ hypothesis =>
      obtain ⟨after, rfl⟩ := start
      have notColon : c ≠ ':' := by
        rintro rfl
        exact absurd nameChar (by decide)
      have counted := hypothesis (List.prefix_append rest after)
      rw [List.cons_append, nameTail]
      · simp only [nameChar, if_true, List.length_cons]
        omega
      · intro d more colon
        exact absurd colon notColon
  | @scope c rest nameChar _ hypothesis =>
      obtain ⟨after, rfl⟩ := start
      have counted := hypothesis (List.prefix_append rest after)
      simp only [List.cons_append, nameTail, nameChar, if_true,
        List.length_cons]
      omega

end Token

/-! ## What a lexeme starts with -/

theorem IsPathTail.cons_cases
    {c : Char}
    {rest : List Char}
    (tail : IsPathTail (c :: rest)) :
    (isNameChar c = true ∧ IsPathTail rest) ∨
      (c = ':' ∧ ∃ d more, rest = ':' :: d :: more ∧
        isNameChar d = true ∧ IsPathTail more) := by
  cases tail with
  | char nameChar restTail => exact Or.inl ⟨nameChar, restTail⟩
  | scope nameChar restTail =>
      exact Or.inr ⟨rfl, _, _, rfl, nameChar, restTail⟩

theorem IsPathTail.mem_cases
    {text : List Char}
    (tail : IsPathTail text)
    {c : Char}
    (member : c ∈ text) :
    c = ':' ∨ isNameChar c = true := by
  induction tail with
  | nil => simp at member
  | char nameChar _ hypothesis =>
      rcases List.mem_cons.mp member with rfl | member
      · exact Or.inr nameChar
      · exact hypothesis member
  | scope nameChar _ hypothesis =>
      simp only [List.mem_cons] at member
      rcases member with rfl | rfl | rfl | member
      · exact Or.inl rfl
      · exact Or.inl rfl
      · exact Or.inr nameChar
      · exact hypothesis member

/-- Every token but an arrow and a name is one of eight characters. -/
def isPunctuation (c : Char) : Bool :=
  ['<', '>', '(', ')', '\x7b', '\x7d', ',', ';'].contains c

/-- A lexeme is a single character, an arrow, or a name. -/
theorem Lexeme.cons_cases
    {kind : TokenKind}
    {c : Char}
    {rest : List Char}
    (lexeme : Lexeme kind (c :: rest)) :
    (isPunctuation c = true ∧ rest = []) ∨ (c = '=' ∧ rest = ['>']) ∨
      (c = '#' ∧ IsWord rest) ∨ IsPathTail (c :: rest) := by
  generalize spelled : c :: rest = text at lexeme
  cases lexeme with
  | name isName =>
      cases isName with
      | hash isWord =>
          obtain ⟨rfl, rfl⟩ := List.cons.inj spelled
          exact Or.inr (Or.inr (Or.inl ⟨rfl, isWord⟩))
      | path path =>
          subst spelled
          exact Or.inr (Or.inr (Or.inr path.isPathTail.1))
  | opening bracket =>
      obtain ⟨rfl, rfl⟩ := List.cons.inj spelled
      exact Or.inl ⟨by cases bracket <;> rfl, rfl⟩
  | closing bracket =>
      obtain ⟨rfl, rfl⟩ := List.cons.inj spelled
      exact Or.inl ⟨by cases bracket <;> rfl, rfl⟩
  | arrow =>
      obtain ⟨rfl, rfl⟩ := List.cons.inj spelled
      exact Or.inr (Or.inl ⟨rfl, rfl⟩)
  | comma =>
      obtain ⟨rfl, rfl⟩ := List.cons.inj spelled
      exact Or.inl ⟨rfl, rfl⟩
  | semicolon =>
      obtain ⟨rfl, rfl⟩ := List.cons.inj spelled
      exact Or.inl ⟨rfl, rfl⟩

theorem Lexeme.ne_nil
    {kind : TokenKind}
    {lexeme : List Char}
    (isLexeme : Lexeme kind lexeme) :
    lexeme ≠ [] := by
  cases isLexeme with
  | name isName =>
      cases isName with
      | hash => simp
      | path path => exact path.isPathTail.2
  | _ => simp

theorem IsName.head_cases
    {c : Char}
    {rest : List Char}
    (isName : IsName (c :: rest)) :
    c = '#' ∨ c = ':' ∨ isNameChar c = true := by
  generalize spelled : c :: rest = text at isName
  cases isName with
  | hash => exact Or.inl (List.cons.inj spelled).1
  | path path =>
      subst spelled
      exact Or.inr (path.isPathTail.1.mem_cases (by simp))

/-- The token that a lexeme spells, read off its text. -/
def spelledKind (text : List Char) : TokenKind :=
  match text with
  | ['<'] => .opening .angle
  | ['('] => .opening .paren
  | ['\x7b'] => .opening .brace
  | ['>'] => .closing .angle
  | [')'] => .closing .paren
  | ['\x7d'] => .closing .brace
  | ['=', '>'] => .arrow
  | [','] => .separator
  | [';'] => .separator
  | name => .name (String.ofList name)

/-- The text of a lexeme decides which token it spells. -/
theorem Lexeme.kind_eq
    {kind : TokenKind}
    {text : List Char}
    (lexeme : Lexeme kind text) :
    kind = spelledKind text := by
  cases lexeme with
  | name isName =>
      unfold spelledKind
      split
      case h_10 => rfl
      all_goals exact absurd isName.head_cases (by decide)
  | opening bracket => cases bracket <;> rfl
  | closing bracket => cases bracket <;> rfl
  | arrow => rfl
  | comma => rfl
  | semicolon => rfl

theorem isNameChar_eq_false_of_isPunctuation
    {c : Char}
    (punctuation : isPunctuation c = true) :
    isNameChar c = false ∧ c ≠ ':' ∧ c ≠ '#' ∧ c ≠ '=' := by
  have table : (['<', '>', '(', ')', '\x7b', '\x7d', ',', ';'].all fun d =>
      decide (isNameChar d = false ∧ d ≠ ':' ∧ d ≠ '#' ∧ d ≠ '=')) = true := by
    decide
  have member := List.contains_iff_mem.mp punctuation
  exact of_decide_eq_true (List.all_eq_true.mp table c member)

/-! ## The token at a place -/

/-- To compare with every lexeme is to compare with those that share the first
character. -/
theorem isLongest_cons
    {c : Char}
    {lexeme text : List Char}
    (bound : ∀ kind rest, Lexeme kind (c :: rest) → rest <+: text →
      rest.length ≤ lexeme.length) :
    IsLongest (c :: lexeme) (c :: text) := by
  intro kind other isLexeme start
  cases other with
  | nil => exact absurd rfl isLexeme.ne_nil
  | cons d rest =>
      obtain ⟨rfl, restStart⟩ := List.cons_prefix_cons.mp start
      exact Nat.succ_le_succ (bound kind rest isLexeme restStart)

theorem isLongest_punctuation
    {c : Char}
    (punctuation : isPunctuation c = true)
    (text : List Char) :
    IsLongest [c] (c :: text) := by
  obtain ⟨notName, notColon, notHash, notEqual⟩ :=
    isNameChar_eq_false_of_isPunctuation punctuation
  apply isLongest_cons
  intro kind rest isLexeme _
  rcases isLexeme.cons_cases with
    ⟨_, rfl⟩ | ⟨equal, _⟩ | ⟨hash, _⟩ | tail
  · exact Nat.le_refl _
  · exact absurd equal notEqual
  · exact absurd hash notHash
  · rcases tail.mem_cases (List.mem_cons_self) with colon | nameChar
    · exact absurd colon notColon
    · exact absurd nameChar (by simp [notName])

theorem isLongest_arrow (text : List Char) :
    IsLongest ['=', '>'] ('=' :: '>' :: text) := by
  apply isLongest_cons
  intro kind rest isLexeme _
  rcases isLexeme.cons_cases with
    ⟨_, rfl⟩ | ⟨_, rfl⟩ | ⟨hash, _⟩ | tail
  · simp
  · simp
  · exact absurd hash (by decide)
  · exact absurd (tail.mem_cases List.mem_cons_self) (by decide)

theorem isLongest_hash (text : List Char) :
    IsLongest ('#' :: text.takeWhile isNameChar) ('#' :: text) := by
  apply isLongest_cons
  intro kind rest isLexeme start
  rcases isLexeme.cons_cases with
    ⟨punctuation, _⟩ | ⟨equal, _⟩ | ⟨_, isWord⟩ | tail
  · exact absurd punctuation (by decide)
  · exact absurd equal (by decide)
  · obtain ⟨after, rfl⟩ := start
    rw [List.takeWhile_append_of_pos isWord.2, List.length_append]
    exact Nat.le_add_right _ _
  · exact absurd (tail.mem_cases List.mem_cons_self) (by decide)

theorem isLongest_path
    {c : Char}
    (nameChar : isNameChar c = true)
    (text : List Char) :
    IsLongest (c :: text.take (Token.nameTail text)) (c :: text) := by
  have counted := List.length_take_of_le (Token.nameTail_le_length text)
  apply isLongest_cons
  intro kind rest isLexeme start
  rw [counted]
  rcases isLexeme.cons_cases with
    ⟨_, rfl⟩ | ⟨rfl, _⟩ | ⟨rfl, _⟩ | tail
  · exact Nat.zero_le _
  · exact absurd nameChar (by decide)
  · exact absurd nameChar (by decide)
  · rcases tail.cons_cases with ⟨_, restTail⟩ | ⟨rfl, _⟩
    · exact Token.length_le_nameTail restTail start
    · exact absurd nameChar (by decide)

theorem isLongest_scope
    (d : Char)
    (text : List Char) :
    IsLongest (':' :: ':' :: d :: text.take (Token.nameTail text))
      (':' :: ':' :: d :: text) := by
  have counted := List.length_take_of_le (Token.nameTail_le_length text)
  apply isLongest_cons
  intro kind rest isLexeme start
  rcases isLexeme.cons_cases with
    ⟨punctuation, _⟩ | ⟨equal, _⟩ | ⟨hash, _⟩ | tail
  · exact absurd punctuation (by decide)
  · exact absurd equal (by decide)
  · exact absurd hash (by decide)
  · rcases tail.cons_cases with ⟨nameChar, _⟩ | ⟨_, e, more, rfl, _, moreTail⟩
    · exact absurd nameChar (by decide)
    · simp only [List.cons_prefix_cons] at start
      have bounded := Token.length_le_nameTail moreTail start.2.2
      simp only [List.length_cons, counted]
      omega

namespace Token

theorem punctuation_token
    {c : Char}
    {kind : TokenKind}
    (isLexeme : Lexeme kind [c])
    (punctuation : isPunctuation c = true)
    (rest : List Char) :
    0 ≤ rest.length ∧ Lexeme kind (c :: rest.take 0) ∧
      IsLongest (c :: rest.take 0) (c :: rest) :=
  ⟨Nat.zero_le _, isLexeme, isLongest_punctuation punctuation rest⟩

/-- The token found at a character is spelled by the text there, and nothing
longer is a lexeme. -/
theorem kindAt?_eq_some
    {c : Char}
    {rest : List Char}
    {kind : TokenKind}
    {length : Nat}
    (found : kindAt? c rest = some (kind, length)) :
    length ≤ rest.length ∧ Lexeme kind (c :: rest.take length) ∧
      IsLongest (c :: rest.take length) (c :: rest) := by
  unfold kindAt? at found
  split at found
  · obtain ⟨rfl, rfl⟩ := found
    exact punctuation_token (.opening .angle) rfl rest
  · obtain ⟨rfl, rfl⟩ := found
    exact punctuation_token (.closing .angle) rfl rest
  · obtain ⟨rfl, rfl⟩ := found
    exact punctuation_token (.opening .paren) rfl rest
  · obtain ⟨rfl, rfl⟩ := found
    exact punctuation_token (.closing .paren) rfl rest
  · obtain ⟨rfl, rfl⟩ := found
    exact punctuation_token (.opening .brace) rfl rest
  · obtain ⟨rfl, rfl⟩ := found
    exact punctuation_token (.closing .brace) rfl rest
  · obtain ⟨rfl, rfl⟩ := found
    exact punctuation_token .comma rfl rest
  · obtain ⟨rfl, rfl⟩ := found
    exact punctuation_token .semicolon rfl rest
  · -- An arrow needs its second character.
    split at found
    · rename_i head
      obtain ⟨rfl, rfl⟩ := found
      cases rest with
      | nil => simp at head
      | cons d more =>
          obtain rfl : d = '>' := by simpa using head
          exact ⟨by simp, .arrow, isLongest_arrow more⟩
    · exact absurd found (by simp)
  · -- A number sign needs a word behind it.
    split at found
    · exact absurd found (by simp)
    · rename_i positive
      obtain ⟨rfl, rfl⟩ := found
      have taken : rest.take (rest.takeWhile isNameChar).length =
          rest.takeWhile isNameChar :=
        (List.prefix_iff_eq_take.mp (List.takeWhile_prefix _)).symm
      rw [taken]
      refine ⟨(List.takeWhile_prefix _).length_le, .name (.hash ⟨?_, ?_⟩),
        isLongest_hash rest⟩
      · rintro empty
        exact positive (by simp [empty])
      · intro d member
        exact List.mem_takeWhile_imp member
  · split at found
    · rename_i d more
      split at found
      · rename_i nameChar
        obtain ⟨rfl, rfl⟩ := found
        have path := IsPathTail.scope nameChar (isPathTail_take_nameTail more)
        refine ⟨?_, .name (.path (path.isPath (by simp))), ?_⟩
        · have bound := nameTail_le_length more
          simp only [List.length_cons]
          omega
        · exact isLongest_scope d more
      · exact absurd found (by simp)
    · exact absurd found (by simp)
  · split at found
    · rename_i nameChar
      obtain ⟨rfl, rfl⟩ := found
      have path := IsPathTail.char nameChar (isPathTail_take_nameTail rest)
      exact ⟨nameTail_le_length rest, .name (.path (path.isPath (by simp))),
        isLongest_path nameChar rest⟩
    · exact absurd found (by simp)

theorem kindAt?_ne_none_of_isPunctuation
    {c : Char}
    (punctuation : isPunctuation c = true)
    (text : List Char) :
    kindAt? c text ≠ none := by
  have member := List.contains_iff_mem.mp punctuation
  simp only [List.mem_cons, List.not_mem_nil, or_false] at member
  rcases member with rfl | rfl | rfl | rfl | rfl | rfl | rfl | rfl <;>
    simp [kindAt?]

theorem kindAt?_ne_none_of_isNameChar
    {c : Char}
    (nameChar : isNameChar c = true)
    (text : List Char) :
    kindAt? c text ≠ none := by
  unfold kindAt?
  split
  case h_12 => simp [nameChar]
  all_goals exact absurd nameChar (by decide)

/-- A character at which no token is found starts no lexeme. -/
theorem kindAt?_eq_none
    {c : Char}
    {text : List Char}
    (missing : kindAt? c text = none)
    {kind : TokenKind}
    {rest : List Char}
    (isLexeme : Lexeme kind (c :: rest))
    (start : rest <+: text) :
    False := by
  rcases isLexeme.cons_cases with
    ⟨punctuation, _⟩ | ⟨rfl, rfl⟩ | ⟨rfl, nonempty, nameChars⟩ | tail
  · exact kindAt?_ne_none_of_isPunctuation punctuation text missing
  · obtain ⟨after, rfl⟩ := start
    simp [kindAt?] at missing
  · obtain ⟨after, rfl⟩ := start
    simp only [kindAt?, List.takeWhile_append_of_pos nameChars] at missing
    split at missing
    · rename_i empty
      simp [nonempty] at empty
    · exact absurd missing (by simp)
  · rcases tail.cons_cases with
      ⟨nameChar, _⟩ | ⟨rfl, d, more, rfl, nameChar, _⟩
    · exact kindAt?_ne_none_of_isNameChar nameChar text missing
    · obtain ⟨after, rfl⟩ := start
      simp [kindAt?, nameChar] at missing

/-- A longest lexeme is the token found at its first character. -/
theorem kindAt?_of_isLongest
    {kind : TokenKind}
    {c : Char}
    {lexeme rest : List Char}
    (isLexeme : Lexeme kind (c :: lexeme))
    (longest : IsLongest (c :: lexeme) (c :: lexeme ++ rest)) :
    kindAt? c (lexeme ++ rest) = some (kind, lexeme.length) := by
  cases result : kindAt? c (lexeme ++ rest) with
  | none =>
      exact absurd (kindAt?_eq_none result isLexeme (List.prefix_append _ _))
        (by simp)
  | some token =>
      obtain ⟨other, length⟩ := token
      obtain ⟨bound, otherLexeme, otherLongest⟩ := kindAt?_eq_some result
      have counted := List.length_take_of_le bound
      have upper := longest other _ otherLexeme
        (List.cons_prefix_cons.mpr ⟨rfl, List.take_prefix _ _⟩)
      have lower := otherLongest kind _ isLexeme
        (List.cons_prefix_cons.mpr ⟨rfl, List.prefix_append _ _⟩)
      simp only [List.length_cons, counted] at upper lower
      obtain rfl : length = lexeme.length := by omega
      rw [List.take_left] at otherLexeme
      rw [otherLexeme.kind_eq, isLexeme.kind_eq]

end Token
end DocLint
