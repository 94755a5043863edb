import DocLint.Proofs.Arrangement
import DocLint.TypeExpr.Style

/-!
# Reading what was written

The written form of a type expression in a style is read back as the same
expression with its names in that style.  The printer puts names, brackets,
arrows and separators next to each other; each of these texts starts apart from
what is before it, so the tokens of the whole are the tokens of the parts.
-/

namespace DocLint

open Text

namespace Spells

/-! ## Spelling texts piece by piece -/

theorem nil : Spells [] [] :=
  ⟨[], .nil 0, rfl⟩

theorem append
    {left right : List Char}
    {leftKinds rightKinds : List TokenKind}
    (leftSpells : Spells left leftKinds)
    (apart : StartsApart right)
    (rightSpells : Spells right rightKinds) :
    Spells (left ++ right) (leftKinds ++ rightKinds) := by
  obtain ⟨leftTokens, leftAt, rfl⟩ := leftSpells
  obtain ⟨rightTokens, rightAt, rfl⟩ :=
    rightSpells.tokensAt (0 + byteLength left)
  exact ⟨leftTokens ++ rightTokens, leftAt.append apart rightAt, by simp⟩

theorem blank
    {c : Char}
    {rest : List Char}
    {kinds : List TokenKind}
    (isBlank : isBlank c = true)
    (restSpells : Spells rest kinds) :
    Spells (c :: rest) kinds := by
  obtain ⟨tokens, tokensAt, rfl⟩ := restSpells.tokensAt (0 + c.utf8Size)
  exact ⟨tokens, .blank isBlank tokensAt, rfl⟩

/-- A lexeme is read in front of a text that cannot make it longer. -/
theorem lexeme
    {kind : TokenKind}
    {lexeme rest : List Char}
    {kinds : List TokenKind}
    (isLexeme : Lexeme kind lexeme)
    (longest : IsLongest lexeme (lexeme ++ rest))
    (restSpells : Spells rest kinds) :
    Spells (lexeme ++ rest) (kind :: kinds) := by
  obtain ⟨tokens, tokensAt, rfl⟩ :=
    restSpells.tokensAt (0 + byteLength lexeme)
  exact ⟨_, .token isLexeme longest tokensAt, rfl⟩

theorem punctuation
    {kind : TokenKind}
    {c : Char}
    {rest : List Char}
    {kinds : List TokenKind}
    (isLexeme : Lexeme kind [c])
    (isPunctuation : isPunctuation c = true)
    (restSpells : Spells rest kinds) :
    Spells (c :: rest) (kind :: kinds) :=
  lexeme isLexeme (isLongest_punctuation isPunctuation rest) restSpells

theorem name
    {name : String}
    (isName : IsName name.toList) :
    Spells name.toList [.name name] := by
  have longest : IsLongest name.toList (name.toList ++ []) := by
    intro kind other _ start
    simpa using start.length_le
  have spells := lexeme (.name isName) longest .nil
  rwa [List.append_nil, String.ofList_toList] at spells

theorem arrow
    {rest : List Char}
    {kinds : List TokenKind}
    (restSpells : Spells rest kinds) :
    Spells (' ' :: '=' :: '>' :: ' ' :: rest) (.arrow :: kinds) := by
  have isBlank : isBlank ' ' = true := by decide
  have behind := lexeme .arrow (isLongest_arrow _) (blank isBlank restSpells)
  exact blank isBlank behind

end Spells

/-! ## Names in a style -/

/-- The name of a collection in a style, where one name is reserved for its
brackets. -/
def Style.nameOf (style : Style) (reserved name : String) : String :=
  match style with
  | .long => if name = "" then reserved else name
  | .short => if name = reserved then "" else name

/-- The name in front of brackets: left out, or a name. -/
def IsFrontName (name : String) : Prop :=
  name = "" ∨ IsName name.toList

theorem isFrontName_arrayName : IsFrontName arrayName :=
  Or.inr (.path (.one (.word (isWord_of_all (by decide) (by decide)))))

theorem isFrontName_hashName : IsFrontName hashName :=
  Or.inr (.path (.one (.word (isWord_of_all (by decide) (by decide)))))

theorem IsFrontName.nameOf
    {name reserved : String}
    (isFrontName : IsFrontName name)
    (reservedName : IsFrontName reserved)
    (style : Style) :
    IsFrontName (style.nameOf reserved name) := by
  cases style with
  | long =>
      simp only [Style.nameOf]
      split
      · exact reservedName
      · exact isFrontName
  | short =>
      simp only [Style.nameOf]
      split
      · exact Or.inl rfl
      · exact isFrontName

theorem IsFrontName.exists_front
    {name : String}
    (isFrontName : IsFrontName name) :
    ∃ front, IsFront front name ∧ Spells name.toList front := by
  rcases isFrontName with rfl | isName
  · exact ⟨[], .elided, .nil⟩
  · exact ⟨[.name name], .written name, .name isName⟩

namespace TypeExpr

mutual

/-- A type expression with the name of each collection in a style. -/
def inStyle (style : Style) : TypeExpr → TypeExpr
  | simple name => simple name
  | generic name arguments =>
      generic (style.nameOf arrayName name) (inStyleOfList style arguments)
  | tuple name elements =>
      tuple (style.nameOf arrayName name) (inStyleOfList style elements)
  | mapping name keys values =>
      mapping (style.nameOf hashName name) (inStyleOfList style keys)
        (inStyleOfList style values)

/-- Type expressions with the names of their collections in a style. -/
def inStyleOfList (style : Style) : List TypeExpr → List TypeExpr
  | [] => []
  | type :: rest => inStyle style type :: inStyleOfList style rest

end

mutual

/-- Simple names are names, collections have no name or a name, and no list of
parts is empty. -/
def IsWellFormed : TypeExpr → Prop
  | simple name => IsName name.toList
  | generic name arguments =>
      IsFrontName name ∧ arguments ≠ [] ∧ AreWellFormed arguments
  | tuple name elements =>
      IsFrontName name ∧ elements ≠ [] ∧ AreWellFormed elements
  | mapping name keys values =>
      IsFrontName name ∧ (keys ≠ [] ∧ AreWellFormed keys) ∧
        (values ≠ [] ∧ AreWellFormed values)

/-- All type expressions of a list are well formed. -/
def AreWellFormed : List TypeExpr → Prop
  | [] => True
  | type :: rest => IsWellFormed type ∧ AreWellFormed rest

end

theorem styledName_generic
    (style : Style)
    (name : String)
    (arguments : List TypeExpr) :
    styledName style (generic name arguments) =
      style.nameOf arrayName name := by
  cases style <;> by_cases elided : name = "" <;>
    simp [styledName, effectiveName, Shape.reservedName, shape,
      TypeExpr.name, Style.nameOf, elided, eq_comm]

theorem styledName_tuple
    (style : Style)
    (name : String)
    (elements : List TypeExpr) :
    styledName style (tuple name elements) = style.nameOf arrayName name :=
  styledName_generic style name elements

theorem styledName_mapping
    (style : Style)
    (name : String)
    (keys values : List TypeExpr) :
    styledName style (mapping name keys values) =
      style.nameOf hashName name := by
  cases style <;> by_cases elided : name = "" <;>
    simp [styledName, effectiveName, Shape.reservedName, shape,
      TypeExpr.name, Style.nameOf, elided, eq_comm]

/-! ## The tokens of written forms -/

theorem charsOfRest_cons
    (style : Style)
    (type : TypeExpr)
    (rest : List TypeExpr) :
    charsOfRest style (type :: rest) =
      ',' :: ' ' :: charsOfList style (type :: rest) := by
  simp [charsOfRest, charsOfList]

theorem chars_generic
    (style : Style)
    (name : String)
    (arguments : List TypeExpr) :
    chars style (generic name arguments) =
      (style.nameOf arrayName name).toList ++ Bracket.angle.openChar ::
        (charsOfList style arguments ++ [Bracket.angle.closeChar]) := by
  simp [chars, styledName_generic, Bracket.openChar, Bracket.closeChar]

theorem chars_tuple
    (style : Style)
    (name : String)
    (elements : List TypeExpr) :
    chars style (tuple name elements) =
      (style.nameOf arrayName name).toList ++ Bracket.paren.openChar ::
        (charsOfList style elements ++ [Bracket.paren.closeChar]) := by
  simp [chars, styledName_tuple, Bracket.openChar, Bracket.closeChar]

theorem chars_mapping
    (style : Style)
    (name : String)
    (keys values : List TypeExpr) :
    chars style (mapping name keys values) =
      (style.nameOf hashName name).toList ++ Bracket.brace.openChar ::
        (charsOfList style keys ++
            ' ' :: '=' :: '>' :: ' ' :: charsOfList style values ++
          [Bracket.brace.closeChar]) := by
  have arrow : " => ".toList = [' ', '=', '>', ' '] := by decide
  rw [chars, styledName_mapping, arrow]
  simp [Bracket.openChar, Bracket.closeChar]

/-- Brackets around a text are read as brackets around its tokens. -/
theorem spells_bracketed
    {name : String}
    (isFrontName : IsFrontName name)
    {inner : List Char}
    {kinds : List TokenKind}
    (innerSpells : Spells inner kinds)
    (bracket : Bracket) :
    ∃ front, IsFront front name ∧
      Spells (name.toList ++ bracket.openChar :: (inner ++ [bracket.closeChar]))
        (front ++ .opening bracket :: (kinds ++ [.closing bracket])) := by
  have opens : isPunctuation bracket.openChar = true := by
    cases bracket <;> rfl
  have closes : isPunctuation bracket.closeChar = true := by
    cases bracket <;> rfl
  obtain ⟨front, isFront, frontSpells⟩ := isFrontName.exists_front
  refine ⟨front, isFront, ?_⟩
  have closing := Spells.punctuation (.closing bracket) closes .nil
  have behind := innerSpells.append (startsApart_of_isPunctuation closes []) closing
  exact frontSpells.append (startsApart_of_isPunctuation opens _)
    (Spells.punctuation (.opening bracket) opens behind)

mutual

/-- The written form of a well-formed expression is read as tokens that derive
the expression in its style. -/
theorem chars_spells
    (style : Style) :
    (type : TypeExpr) →
    type.IsWellFormed →
    ∃ kinds, Spells (chars style type) kinds ∧ IsType kinds (inStyle style type)
  | simple name, wellFormed =>
      ⟨[.name name], .name wellFormed, .simple name⟩
  | generic name arguments, ⟨isFrontName, nonempty, wellFormed⟩ => by
      obtain ⟨kinds, inner, isList⟩ :=
        charsOfList_spells style arguments nonempty wellFormed
      obtain ⟨front, isFront, spells⟩ := spells_bracketed
        (isFrontName.nameOf isFrontName_arrayName style) inner .angle
      rw [chars_generic]
      exact ⟨_, spells, .generic isFront isList⟩
  | tuple name elements, ⟨isFrontName, nonempty, wellFormed⟩ => by
      obtain ⟨kinds, inner, isList⟩ :=
        charsOfList_spells style elements nonempty wellFormed
      obtain ⟨front, isFront, spells⟩ := spells_bracketed
        (isFrontName.nameOf isFrontName_arrayName style) inner .paren
      rw [chars_tuple]
      exact ⟨_, spells, .tuple isFront isList⟩
  | mapping name keys values, ⟨isFrontName, keysFormed, valuesFormed⟩ => by
      obtain ⟨keyKinds, keysSpell, keysList⟩ :=
        charsOfList_spells style keys keysFormed.1 keysFormed.2
      obtain ⟨valueKinds, valuesSpell, valuesList⟩ :=
        charsOfList_spells style values valuesFormed.1 valuesFormed.2
      have inner := keysSpell.append
        (startsApart_of_isBlank (by decide) _) (.arrow valuesSpell)
      obtain ⟨front, isFront, spells⟩ := spells_bracketed
        (isFrontName.nameOf isFrontName_hashName style) inner .brace
      rw [chars_mapping]
      exact ⟨_, spells, .mapping isFront keysList valuesList⟩

/-- The written form of a list of well-formed expressions, one at least, is read
as tokens that derive the list in its style. -/
theorem charsOfList_spells
    (style : Style) :
    (types : List TypeExpr) →
    types ≠ [] →
    AreWellFormed types →
    ∃ kinds, Spells (charsOfList style types) kinds ∧
      IsList kinds (inStyleOfList style types)
  | [], nonempty, _ => absurd rfl nonempty
  | [type], _, ⟨wellFormed, _⟩ => by
      obtain ⟨kinds, spells, isType⟩ := chars_spells style type wellFormed
      refine ⟨kinds, ?_, .one isType⟩
      simpa [charsOfList, charsOfRest] using spells
  | type :: next :: rest, _, ⟨wellFormed, restFormed⟩ => by
      obtain ⟨kinds, spells, isType⟩ := chars_spells style type wellFormed
      obtain ⟨restKinds, restSpells, isList⟩ :=
        charsOfList_spells style (next :: rest) (by simp) restFormed
      have separated := Spells.punctuation .comma (by decide)
        (Spells.blank (c := ' ') (by decide) restSpells)
      refine ⟨_, ?_, .more isType isList⟩
      rw [charsOfList, charsOfRest_cons]
      exact spells.append (startsApart_of_isPunctuation (by decide) _) separated

end

mutual

/-- The style of names does not change how deep brackets nest. -/
theorem nesting_inStyle
    (style : Style) :
    (type : TypeExpr) →
    (inStyle style type).nesting = type.nesting
  | simple _ => rfl
  | generic _ arguments => by
      simp only [inStyle, nesting, nestingOfList_inStyleOfList style arguments]
  | tuple _ elements => by
      simp only [inStyle, nesting, nestingOfList_inStyleOfList style elements]
  | mapping _ keys values => by
      simp only [inStyle, nesting, nestingOfList_inStyleOfList style keys,
        nestingOfList_inStyleOfList style values]

theorem nestingOfList_inStyleOfList
    (style : Style) :
    (types : List TypeExpr) →
    nestingOfList (inStyleOfList style types) = nestingOfList types
  | [] => rfl
  | type :: rest => by
      simp only [inStyleOfList, nestingOfList, nesting_inStyle style type,
        nestingOfList_inStyleOfList style rest]

end

/-- Parsing undoes rendering: the written form of well-formed alternatives, in
which brackets nest at most 64 levels deep, is read back as the same
alternatives with the name of each collection in the style of the form. -/
theorem parse_renderList
    (style : Style)
    (types : List TypeExpr)
    (wellFormed : AreWellFormed types)
    (bound : nestingOfList types ≤ 64) :
    parse (renderList style types).toList =
      .ok (inStyleOfList style types) := by
  rw [renderList, String.toList_ofList]
  cases types with
  | nil => exact parse_of_blanks (by simp [charsOfList])
  | cons type rest =>
      obtain ⟨kinds, ⟨tokens, tokensAt, rfl⟩, isList⟩ :=
        charsOfList_spells style (type :: rest) (by simp) wellFormed
      rw [← nestingOfList_inStyleOfList style] at bound
      exact parse_of_isList tokensAt isList bound

/-- A hash of arrays with its names left out, beside a name with a number
sign. -/
theorem parse_renderList_short_hash :
    parse (renderList .short
        [mapping "Hash" [simple "Symbol"] [generic "Array" [simple "::A::B"]],
          simple "#to_s"]).toList =
      .ok [mapping "" [simple "Symbol"] [generic "" [simple "::A::B"]],
        simple "#to_s"] := by
  have symbol : IsName "Symbol".toList :=
    .path (.one (.word (isWord_of_all (by decide) (by decide))))
  have qualified : IsName ([':', ':', 'A'] ++ [':', ':', 'B']) :=
    .path (.more (.qualified (isWord_of_all (by decide) (by decide)))
      (.one (.qualified (isWord_of_all (by decide) (by decide)))))
  have hash : IsName ('#' :: ['t', 'o', '_', 's']) :=
    .hash (isWord_of_all (by decide) (by decide))
  have inner : IsWellFormed (generic "Array" [simple "::A::B"]) :=
    ⟨isFrontName_arrayName, by simp, qualified, trivial⟩
  have outer : IsWellFormed (mapping "Hash" [simple "Symbol"]
      [generic "Array" [simple "::A::B"]]) :=
    ⟨isFrontName_hashName, ⟨by simp, symbol, trivial⟩, by simp, inner, trivial⟩
  exact parse_renderList .short _ ⟨outer, hash, trivial⟩ (by decide)

end TypeExpr
end DocLint
