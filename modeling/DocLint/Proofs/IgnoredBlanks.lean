import DocLint.Proofs.RoundTrip
import Mathlib.Data.List.Chain

/-!
# Blanks between tokens

Leaving out all blanks of a text brings its tokens together, and two names would
run into one.  No two names stand next to each other in a list of type
expressions, and every other token is told apart from what follows it.  So a
text that is read keeps its tokens without its blanks, and texts that differ
only in blanks are read alike.
-/

namespace DocLint

open Text

/-- A text without its blanks. -/
def withoutBlanks (text : List Char) : List Char :=
  text.filter fun c => !isBlank c

theorem sameIgnoringBlanks_iff
    {left right : List Char} :
    sameIgnoringBlanks left right = true ↔
      withoutBlanks left = withoutBlanks right :=
  beq_iff_eq

/-! ## Tokens next to each other -/

/-- Whether a token is a name. -/
def TokenKind.isName : TokenKind → Bool
  | .name _ => true
  | .opening _ | .closing _ | .arrow | .separator => false

/-- No name stands next to another one. -/
def NamesApart (kinds : List TokenKind) : Prop :=
  kinds.IsChain fun left right => left.isName = false ∨ right.isName = false

namespace NamesApart

/-- A token that is no name keeps what is before it and what is behind it
apart. -/
theorem around
    {left right : List TokenKind}
    {kind : TokenKind}
    (leftApart : NamesApart left)
    (notName : kind.isName = false)
    (rightApart : NamesApart right) :
    NamesApart (left ++ kind :: right) := by
  refine leftApart.append (rightApart.cons fun _ _ => Or.inl notName) ?_
  rintro before _ behind ⟨⟩
  exact Or.inr notName

theorem of_isFront
    {front : List TokenKind}
    {name : String}
    (isFront : IsFront front name) :
    NamesApart front := by
  cases isFront with
  | elided => exact List.isChain_nil
  | written name => exact List.isChain_singleton _

/-- Brackets keep their content apart from what is in front of them. -/
theorem bracketed
    {front inner : List TokenKind}
    {name : String}
    (isFront : IsFront front name)
    (innerApart : NamesApart inner)
    (bracket : Bracket) :
    NamesApart (front ++ .opening bracket :: (inner ++ [.closing bracket])) :=
  (of_isFront isFront).around rfl (innerApart.around rfl List.isChain_nil)

end NamesApart

mutual

/-- No two names stand next to each other in a type expression. -/
theorem IsType.namesApart
    {kinds : List TokenKind}
    {type : TypeExpr}
    (isType : IsType kinds type) :
    NamesApart kinds := by
  cases isType with
  | simple name => exact List.isChain_singleton _
  | generic isFront isList => exact .bracketed isFront isList.namesApart .angle
  | tuple isFront isList => exact .bracketed isFront isList.namesApart .paren
  | mapping isFront isKeys isValues =>
      exact .bracketed isFront
        (isKeys.namesApart.around rfl isValues.namesApart) .brace

/-- Nor do they in a list of type expressions. -/
theorem IsList.namesApart
    {kinds : List TokenKind}
    {types : List TypeExpr}
    (isList : IsList kinds types) :
    NamesApart kinds := by
  cases isList with
  | one isType => exact isType.namesApart
  | more isType isRest => exact isType.namesApart.around rfl isRest.namesApart

end

/-! ## Tokens without blanks -/

/-- A token that is no name is read in front of any text. -/
theorem Lexeme.isLongest_of_not_name
    {kind : TokenKind}
    {lexeme : List Char}
    (isLexeme : Lexeme kind lexeme)
    (notName : kind.isName = false)
    (text : List Char) :
    IsLongest lexeme (lexeme ++ text) := by
  cases isLexeme with
  | name isName => exact absurd notName (by simp [TokenKind.isName])
  | opening bracket =>
      exact isLongest_punctuation (by cases bracket <;> rfl) text
  | closing bracket =>
      exact isLongest_punctuation (by cases bracket <;> rfl) text
  | arrow => exact isLongest_arrow text
  | comma => exact isLongest_punctuation rfl text
  | semicolon => exact isLongest_punctuation rfl text

theorem isLongest_self (lexeme : List Char) : IsLongest lexeme lexeme :=
  fun _ _ _ start => start.length_le

theorem Lexeme.startsApart
    {kind : TokenKind}
    {lexeme : List Char}
    (isLexeme : Lexeme kind lexeme)
    (notName : kind.isName = false)
    (rest : List Char) :
    StartsApart (lexeme ++ rest) := by
  cases isLexeme with
  | name isName => exact absurd notName (by simp [TokenKind.isName])
  | opening bracket =>
      exact startsApart_of_isPunctuation (by cases bracket <;> rfl) rest
  | closing bracket =>
      exact startsApart_of_isPunctuation (by cases bracket <;> rfl) rest
  | arrow =>
      rintro c ⟨⟩
      decide
  | comma => exact startsApart_of_isPunctuation rfl rest
  | semicolon => exact startsApart_of_isPunctuation rfl rest

/-- A text whose first token is no name starts apart from what is before it. -/
theorem TokensAt.startsApart
    {offset : Nat}
    {text : List Char}
    {tokens : List Token}
    (tokensAt : TokensAt offset text tokens)
    (notName : ∀ kind ∈ (tokens.map Token.kind).head?, kind.isName = false) :
    StartsApart text := by
  cases tokensAt with
  | nil => exact startsApart_nil
  | blank isBlank _ => exact startsApart_of_isBlank isBlank _
  | token isLexeme _ _ => exact isLexeme.startsApart (notName _ rfl) _

theorem withoutBlanks_lexeme
    {kind : TokenKind}
    {lexeme : List Char}
    (isLexeme : Lexeme kind lexeme)
    (rest : List Char) :
    withoutBlanks (lexeme ++ rest) = lexeme ++ withoutBlanks rest := by
  have kept : withoutBlanks lexeme = lexeme := by
    apply List.filter_eq_self.mpr
    intro c member
    simp [isBlank_eq_false_of_isTypeChar (isLexeme.isTypeChar_of_mem member)]
  rw [withoutBlanks, List.filter_append, ← withoutBlanks, kept, withoutBlanks]

/-- Without its blanks, a text is read as the same tokens if no names meet. -/
theorem TokensAt.spells_withoutBlanks
    {offset : Nat}
    {text : List Char}
    {tokens : List Token}
    (tokensAt : TokensAt offset text tokens)
    (apart : NamesApart (tokens.map Token.kind)) :
    Spells (withoutBlanks text) (tokens.map Token.kind) := by
  induction tokensAt with
  | nil => exact .nil
  | blank isBlank _ hypothesis =>
      rw [withoutBlanks, List.filter_cons_of_neg (by simp [isBlank])]
      exact hypothesis apart
  | @token offset kind lexeme rest tokens isLexeme _ _ hypothesis =>
      obtain ⟨next, restApart⟩ := List.isChain_cons.mp apart
      have restSpells := hypothesis restApart
      rw [withoutBlanks_lexeme isLexeme]
      refine .lexeme isLexeme ?_ restSpells
      cases isName : kind.isName with
      | false => exact isLexeme.isLongest_of_not_name isName _
      | true =>
          -- The token behind a name is none, so the name ends before it.
          obtain ⟨moved, movedAt, kinds⟩ := restSpells
          have behind : StartsApart (withoutBlanks rest) := by
            apply movedAt.startsApart
            rw [kinds]
            intro other found
            rcases next other found with notName | notName
            · exact absurd notName (by simp [isName])
            · exact notName
          have alone : IsLongest lexeme (lexeme ++ []) := by
            rw [List.append_nil]
            exact isLongest_self lexeme
          exact alone.append isLexeme behind

/-! ## Reading without blanks -/

namespace TypeExpr

theorem parse_withoutBlanks
    {text : List Char}
    {types : List TypeExpr}
    (parsed : parse text = .ok types) :
    parse (withoutBlanks text) = .ok types := by
  by_cases blanks : ∀ c ∈ text, isBlank c = true
  · have empty : withoutBlanks text = [] :=
      List.filter_eq_nil_iff.mpr fun c member => by simp [blanks c member]
    rw [empty, parse_of_blanks (by simp), ← parse_of_blanks blanks, parsed]
  · obtain ⟨tokens, tokensAt, isList, bound⟩ :=
      exists_isList_of_parse_eq_ok blanks parsed
    obtain ⟨moved, movedAt, kinds⟩ :=
      tokensAt.spells_withoutBlanks isList.namesApart
    exact parse_of_isList movedAt (kinds ▸ isList) bound

/-- Comparing texts without their blanks is sound.  A text that is read as some
types is read as the same types without its blanks, and so is every text that
can be read and has the same characters apart from blanks. -/
theorem parse_ignores_blanks
    {left : List Char}
    {types : List TypeExpr}
    (parsed : parse left = .ok types) :
    parse (withoutBlanks left) = .ok types ∧
      ∀ right others, parse right = .ok others →
        sameIgnoringBlanks left right = true → parse left = parse right := by
  refine ⟨parse_withoutBlanks parsed, ?_⟩
  intro right others otherParsed same
  have bare := parse_withoutBlanks otherParsed
  rw [← sameIgnoringBlanks_iff.mp same, parse_withoutBlanks parsed] at bare
  rw [parsed, otherParsed, bare]

/-- Blanks around every token of a hash, between names that have to stay apart
from colons, a number sign and an arrow. -/
theorem parse_ignores_blanks_hash :
    parse " Hash \x7b ::A::B\t; #c  =>\n< D > \x7d".toList =
        .ok [mapping "Hash" [simple "::A::B", simple "#c"]
          [generic "" [simple "D"]]] ∧
      parse (withoutBlanks " Hash \x7b ::A::B\t; #c  =>\n< D > \x7d".toList) =
        .ok [mapping "Hash" [simple "::A::B", simple "#c"]
          [generic "" [simple "D"]]] ∧
      parse " Hash \x7b ::A::B\t; #c  =>\n< D > \x7d".toList =
        parse "Hash\x7b::A::B;#c=><D>\x7d".toList := by
  have parsed : parse " Hash \x7b ::A::B\t; #c  =>\n< D > \x7d".toList =
      .ok [mapping "Hash" [simple "::A::B", simple "#c"]
        [generic "" [simple "D"]]] := by
    with_unfolding_all rfl
  have otherParsed : parse "Hash\x7b::A::B;#c=><D>\x7d".toList =
      .ok [mapping "Hash" [simple "::A::B", simple "#c"]
        [generic "" [simple "D"]]] := by
    with_unfolding_all rfl
  have ignores := parse_ignores_blanks parsed
  exact ⟨parsed, ignores.1, ignores.2 _ _ otherParsed (by decide)⟩

end TypeExpr
end DocLint
