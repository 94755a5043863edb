import DocLint.Proofs.CorrectedNodes
import DocLint.Proofs.IgnoredBlanks
import DocLint.Proofs.TypeReports

/-!
# Which alternatives are reported for their style

The check for styles compares the text of an alternative with its written form
in the style, leaving blanks aside.  The written form has the names of the style
and a comma between types.  So a finding means that a collection is written in
the other style, or that a semicolon stands between the types of a collection.
-/

namespace DocLint

open Text

namespace TypeExpr

/-! ## Collections in a style -/

/-- A collection is written in the short style if its name is left out, and in
the long style if its name is the one that is reserved for its brackets. -/
def IsWrittenIn (style : Style) (node : TypeExpr) : Prop :=
  match style with
  | .short => node.shape ≠ .simple ∧ node.name = ""
  | .long => node.shape.reservedName = some node.name

instance (style : Style) (node : TypeExpr) :
    Decidable (node.IsWrittenIn style) :=
  match style with
  | .short => inferInstanceAs (Decidable (_ ∧ _))
  | .long => inferInstanceAs (Decidable (_ = _))

theorem nameOf_eq_self_iff
    (node : TypeExpr)
    {reserved : String}
    (isReserved : node.shape.reservedName = some reserved)
    (style : Style) :
    style.nameOf reserved node.name = node.name ↔
      ¬ node.IsWrittenIn style.opposite := by
  have collection : node.shape ≠ .simple := by
    intro isSimple
    rw [isSimple] at isReserved
    exact absurd isReserved (by simp [Shape.reservedName])
  have named : reserved ≠ "" := by
    rintro rfl
    revert isReserved
    cases node.shape <;> decide
  cases style with
  | long =>
      by_cases elided : node.name = ""
      · simp [Style.nameOf, Style.opposite, IsWrittenIn, collection, elided, named]
      · simp [Style.nameOf, Style.opposite, IsWrittenIn, elided]
  | short =>
      by_cases spelled : node.name = reserved
      · simp [Style.nameOf, Style.opposite, IsWrittenIn, isReserved, spelled,
          named.symm]
      · simp [Style.nameOf, Style.opposite, IsWrittenIn, isReserved, spelled,
          Ne.symm spelled]

mutual

/-- An expression has the names of a style if none of its collections is written
in the other one. -/
theorem inStyle_eq_self_iff
    (style : Style) :
    (type : TypeExpr) →
    (inStyle style type = type ↔
      ∀ node ∈ type.nodes, ¬ node.IsWrittenIn style.opposite)
  | simple name => by
      have plain : ¬ (simple name).IsWrittenIn style.opposite := by
        cases style <;> simp [Style.opposite, IsWrittenIn, shape,
          Shape.reservedName]
      simpa [inStyle, nodes] using plain
  | generic name arguments => by
      have own := nameOf_eq_self_iff (generic name arguments) rfl style
      rw [inStyle, nodes, List.forall_mem_cons, ← own,
        ← inStyleOfList_eq_self_iff style arguments]
      exact generic.injEq _ _ _ _ ▸ Iff.rfl
  | tuple name elements => by
      have own := nameOf_eq_self_iff (tuple name elements) rfl style
      rw [inStyle, nodes, List.forall_mem_cons, ← own,
        ← inStyleOfList_eq_self_iff style elements]
      exact tuple.injEq _ _ _ _ ▸ Iff.rfl
  | mapping name keys values => by
      have own := nameOf_eq_self_iff (mapping name keys values) rfl style
      rw [inStyle, nodes, List.forall_mem_cons, List.forall_mem_append, ← own,
        ← inStyleOfList_eq_self_iff style keys,
        ← inStyleOfList_eq_self_iff style values]
      exact mapping.injEq _ _ _ _ _ _ ▸ Iff.rfl

theorem inStyleOfList_eq_self_iff
    (style : Style) :
    (types : List TypeExpr) →
    (inStyleOfList style types = types ↔
      ∀ node ∈ nodesOfList types, ¬ node.IsWrittenIn style.opposite)
  | [] => by simp [inStyleOfList, nodesOfList]
  | type :: rest => by
      rw [inStyleOfList, nodesOfList, List.forall_mem_append,
        ← inStyle_eq_self_iff style type, ← inStyleOfList_eq_self_iff style rest,
        List.cons_eq_cons]

end

/-! ## Texts without blanks and semicolons -/

mutual

/-- The text of an expression with its names as they are, commas between types,
and no blanks. -/
def bareChars : TypeExpr → List Char
  | simple name => name.toList
  | generic name arguments =>
      name.toList ++ '<' :: (bareCharsOfList arguments ++ ['>'])
  | tuple name elements =>
      name.toList ++ '(' :: (bareCharsOfList elements ++ [')'])
  | mapping name keys values =>
      name.toList ++ '\x7b' ::
        (bareCharsOfList keys ++ '=' :: '>' :: bareCharsOfList values ++ ['\x7d'])

/-- The texts of type expressions with commas between them. -/
def bareCharsOfList : List TypeExpr → List Char
  | [] => []
  | [type] => bareChars type
  | type :: next :: rest => bareChars type ++ ',' :: bareCharsOfList (next :: rest)

end

end TypeExpr

/-- The text that spells a token, a comma for a separator. -/
def TokenKind.spelling : TokenKind → List Char
  | .name text => text.toList
  | .opening bracket => [bracket.openChar]
  | .closing bracket => [bracket.closeChar]
  | .arrow => ['=', '>']
  | .separator => [',']

theorem Lexeme.eq_spelling
    {kind : TokenKind}
    {lexeme : List Char}
    (isLexeme : Lexeme kind lexeme)
    (noSemicolon : ';' ∉ lexeme) :
    lexeme = kind.spelling := by
  cases isLexeme with
  | name isName => rw [TokenKind.spelling, String.toList_ofList]
  | opening bracket => rfl
  | closing bracket => rfl
  | arrow => rfl
  | comma => rfl
  | semicolon => exact absurd noSemicolon (by simp)

/-- Only semicolons and blanks are not decided by the tokens of a text. -/
theorem TokensAt.withoutBlanks_eq
    {offset : Nat}
    {text : List Char}
    {tokens : List Token}
    (tokensAt : TokensAt offset text tokens)
    (noSemicolon : ';' ∉ text) :
    withoutBlanks text =
      (tokens.map Token.kind).flatMap TokenKind.spelling := by
  induction tokensAt with
  | nil => rfl
  | blank isBlank _ hypothesis =>
      rw [withoutBlanks, List.filter_cons_of_neg (by simp [isBlank])]
      exact hypothesis fun member => noSemicolon (List.mem_cons_of_mem _ member)
  | token isLexeme _ _ hypothesis =>
      rw [List.mem_append, not_or] at noSemicolon
      rw [withoutBlanks_lexeme isLexeme, hypothesis noSemicolon.2, List.map_cons,
        List.flatMap_cons, ← isLexeme.eq_spelling noSemicolon.1]

theorem IsFront.spelling_eq
    {front : List TokenKind}
    {name : String}
    (isFront : IsFront front name) :
    front.flatMap TokenKind.spelling = name.toList := by
  cases isFront with
  | elided => rfl
  | written name => simp [TokenKind.spelling]

mutual

/-- The tokens of an expression spell its bare text. -/
theorem IsType.spelling_eq
    {kinds : List TokenKind}
    {type : TypeExpr}
    (isType : IsType kinds type) :
    kinds.flatMap TokenKind.spelling = type.bareChars := by
  cases isType with
  | simple name => simp [TokenKind.spelling, TypeExpr.bareChars]
  | generic isFront isList =>
      simp [TypeExpr.bareChars, isFront.spelling_eq, isList.spelling_eq,
        TokenKind.spelling, Bracket.openChar, Bracket.closeChar]
  | tuple isFront isList =>
      simp [TypeExpr.bareChars, isFront.spelling_eq, isList.spelling_eq,
        TokenKind.spelling, Bracket.openChar, Bracket.closeChar]
  | mapping isFront isKeys isValues =>
      simp [TypeExpr.bareChars, isFront.spelling_eq, isKeys.spelling_eq,
        isValues.spelling_eq, TokenKind.spelling, Bracket.openChar,
        Bracket.closeChar]

theorem IsList.spelling_eq
    {kinds : List TokenKind}
    {types : List TypeExpr}
    (isList : IsList kinds types) :
    kinds.flatMap TokenKind.spelling = TypeExpr.bareCharsOfList types := by
  cases isList with
  | one isType => exact isType.spelling_eq
  | @more kinds rest type types isType isRest =>
      cases types with
      | nil => cases isRest
      | cons next others =>
          simp [TypeExpr.bareCharsOfList, isType.spelling_eq, isRest.spelling_eq,
            TokenKind.spelling]

end

/-- A text of an expression without semicolons is its bare text, blanks
aside. -/
theorem Writes.withoutBlanks_eq
    {raw : List Char}
    {type : TypeExpr}
    (writes : Writes raw type)
    (noSemicolon : ';' ∉ raw) :
    withoutBlanks raw = type.bareChars := by
  obtain ⟨kinds, ⟨tokens, tokensAt, rfl⟩, isType⟩ := writes.derived
  rw [tokensAt.withoutBlanks_eq noSemicolon, isType.spelling_eq]

/-! ## Written forms have no semicolons -/

theorem IsFrontName.semicolon_not_mem
    {name : String}
    (isFrontName : IsFrontName name) :
    ';' ∉ name.toList := by
  intro member
  rcases isFrontName with rfl | isName
  · exact absurd member (by simp)
  · have plain : ';' ≠ '#' ∧ ';' ≠ ':' ∧ isNameChar ';' = false := by decide
    generalize name.toList = text at isName member
    cases isName with
    | hash isWord =>
        rcases List.mem_cons.mp member with isHash | member
        · exact plain.1 isHash
        · exact absurd (isWord.2 _ member) (by simp [plain.2.2])
    | path path =>
        rcases path.isPathTail.1.mem_cases member with isColon | nameChar
        · exact plain.2.1 isColon
        · exact absurd nameChar (by simp [plain.2.2])

namespace TypeExpr

mutual

theorem semicolon_not_mem_chars
    (style : Style) :
    (type : TypeExpr) →
    type.IsWellFormed →
    ';' ∉ chars style type
  | simple name, wellFormed =>
      IsFrontName.semicolon_not_mem (Or.inr wellFormed)
  | generic name arguments, ⟨isFrontName, _, wellFormed⟩ => by
      have front := (isFrontName.nameOf isFrontName_arrayName
        style).semicolon_not_mem
      have inner := semicolon_not_mem_charsOfList style arguments wellFormed
      simp [chars_generic, front, inner, Bracket.openChar, Bracket.closeChar]
  | tuple name elements, ⟨isFrontName, _, wellFormed⟩ => by
      have front := (isFrontName.nameOf isFrontName_arrayName
        style).semicolon_not_mem
      have inner := semicolon_not_mem_charsOfList style elements wellFormed
      simp [chars_tuple, front, inner, Bracket.openChar, Bracket.closeChar]
  | mapping name keys values, ⟨isFrontName, ⟨_, keysFormed⟩, _, valuesFormed⟩ => by
      have front := (isFrontName.nameOf isFrontName_hashName
        style).semicolon_not_mem
      have keysInner := semicolon_not_mem_charsOfList style keys keysFormed
      have valuesInner := semicolon_not_mem_charsOfList style values valuesFormed
      simp [chars_mapping, front, keysInner, valuesInner, Bracket.openChar,
        Bracket.closeChar]

theorem semicolon_not_mem_charsOfList
    (style : Style) :
    (types : List TypeExpr) →
    AreWellFormed types →
    ';' ∉ charsOfList style types
  | [], _ => by simp [charsOfList]
  | [type], ⟨wellFormed, _⟩ => by
      simpa [charsOfList, charsOfRest] using
        semicolon_not_mem_chars style type wellFormed
  | type :: next :: rest, ⟨wellFormed, restFormed⟩ => by
      have first := semicolon_not_mem_chars style type wellFormed
      have others := semicolon_not_mem_charsOfList style (next :: rest) restFormed
      rw [charsOfList, charsOfRest_cons]
      simp [first, others]

end

end TypeExpr

/-! ## What the comparison of texts decides -/

theorem TypeExpr.parse_of_writes
    {raw : List Char}
    {type : TypeExpr}
    (writes : Writes raw type)
    (bound : type.nesting ≤ maxNesting) :
    parse raw = .ok [type] := by
  obtain ⟨kinds, ⟨tokens, tokensAt, rfl⟩, isType⟩ := writes.derived
  exact parse_of_isList tokensAt (.one isType)
    (by simpa [nestingOfList] using bound)

/-- A text agrees with the written form of its expression, blanks aside, exactly
if it has the names of the style and no semicolon. -/
theorem Writes.sameIgnoringBlanks_iff
    {raw : List Char}
    {type : TypeExpr}
    (writes : Writes raw type)
    (bound : type.nesting ≤ maxNesting)
    (style : Style) :
    sameIgnoringBlanks raw (type.chars style) = true ↔
      type.inStyle style = type ∧ ';' ∉ raw := by
  have wellFormed := writes.isWellFormed
  have written := wellFormed.writes style
  have noSemicolon := TypeExpr.semicolon_not_mem_chars style type wellFormed
  rw [DocLint.sameIgnoringBlanks_iff]
  constructor
  · intro same
    constructor
    · -- Both texts are read as they are without blanks.
      have read := TypeExpr.parse_withoutBlanks
        (TypeExpr.parse_of_writes writes bound)
      rw [← TypeExpr.nesting_inStyle style] at bound
      have writtenRead := TypeExpr.parse_withoutBlanks
        (TypeExpr.parse_of_writes written bound)
      rw [same, writtenRead] at read
      exact (List.cons.inj (Except.ok.inj read)).1
    · intro member
      have kept : ';' ∈ withoutBlanks raw :=
        List.mem_filter.mpr ⟨member, by decide⟩
      rw [same] at kept
      exact noSemicolon (List.mem_filter.mp kept).1
  · rintro ⟨sameNames, rawNoSemicolon⟩
    rw [sameNames] at written
    rw [writes.withoutBlanks_eq rawNoSemicolon,
      written.withoutBlanks_eq noSemicolon]

namespace Check

theorem exists_styleFinding_iff
    {types : TagText}
    {style : Style}
    {alternative : Alternative} :
    (∃ finding ∈ alternativeFindings types style alternative,
        finding.rule = .collectionStyle) ↔
      ¬ sameIgnoringBlanks (rawText types alternative)
        (alternative.type.chars style) = true := by
  rw [alternativeFindings_eq, complaints]
  constructor
  · rintro ⟨finding, member, isStyle⟩ same
    obtain ⟨complaint, complains, rfl⟩ := List.mem_map.mp member
    rw [if_pos same, List.append_nil] at complains
    obtain ⟨mismatch, _, rfl⟩ := List.mem_map.mp complains
    simp [reported] at isStyle
  · intro differs
    rw [if_neg differs, List.map_append]
    exact ⟨_, List.mem_append_right _ List.mem_cons_self, rfl⟩

/-- The findings for a tag whose types can be read are those of its
alternatives.  An alternative is reported for its style exactly if one of its
collections, at any depth, is written in the other style, or its text holds a
semicolon. -/
theorem styleFinding_iff
    {tag : Tag}
    {types : TagText}
    (isTyped : tag.kind.isTyped = true)
    (hasTypes : tag.types = some types)
    {alternatives : List Alternative}
    (parsed : TypeExpr.parseAlternatives types.text.toList = .ok alternatives)
    (style : Style) :
    tagTypes style tag =
        alternatives.flatMap (alternativeFindings types style) ∧
      ∀ alternative ∈ alternatives,
        (∃ finding ∈ alternativeFindings types style alternative,
            finding.rule = .collectionStyle) ↔
          (∃ node ∈ alternative.type.nodes, node.IsWrittenIn style.opposite) ∨
            ';' ∈ rawText types alternative := by
  refine ⟨tagTypes_of_readable isTyped hasTypes style parsed, ?_⟩
  intro alternative member
  obtain ⟨raw, standsOn, writes⟩ := exists_raw_of_parsed parsed member
  have bound : alternative.type.nesting ≤ maxNesting := by
    rcases parseAlternatives_eq_ok_iff_arranged.mp parsed with
      ⟨_, rfl⟩ | ⟨_, bound⟩
    · exact absurd member List.not_mem_nil
    · exact TypeExpr.nestingOfList_le_iff.mp bound _
        (List.mem_map_of_mem member)
  rw [exists_styleFinding_iff, rawText_eq standsOn,
    writes.sameIgnoringBlanks_iff bound style, TypeExpr.inStyle_eq_self_iff]
  simp only [not_and_or, not_forall, not_not, exists_prop]

/-! ## Commas and semicolons -/

/-- A comment with types of three kinds: a collection with a semicolon, one
without its name, and one with the wrong name. -/
def mixedLines : List CommentLine :=
  [⟨1, 0, "# @return [Array<A; B>; \x7bA => B\x7d, Hash<A,  B>]", true⟩]

/-- The types of that comment. -/
def mixedTypes : TagText :=
  ⟨"Array<A; B>; \x7bA => B\x7d, Hash<A,  B>", ⟨0, 34, 1, 11⟩, []⟩

/-- The tag of that comment. -/
def mixedTag : Tag where
  kind := .returns
  directive := "return"
  lineIndex := 0
  name := none
  key := none
  types := some mixedTypes
  misplacedTypes := none
  text := " [Array<A; B>; \x7bA => B\x7d, Hash<A,  B>]"

/-- The alternatives of these types. -/
def mixedAlternatives : List Alternative :=
  [⟨.generic "Array" [.simple "A", .simple "B"], 0, 11⟩,
    ⟨.mapping "" [.simple "A"] [.simple "B"], 13, 21⟩,
    ⟨.generic "Hash" [.simple "A", .simple "B"], 23, 34⟩]

theorem parseAlternatives_mixedTypes :
    TypeExpr.parseAlternatives mixedTypes.text.toList =
      .ok mixedAlternatives := by
  with_unfolding_all rfl

/-- In the long style, the first alternative is reported for its semicolon and
the second for its missing name; the semicolon between them is not reported, nor
are the two blanks in the third. -/
theorem styleFinding_iff_mixed :
    Tag.extract mixedLines = [mixedTag] ∧
      mixedTag.kind.isTyped = true ∧ mixedTag.types = some mixedTypes ∧
      TypeExpr.parseAlternatives mixedTypes.text.toList =
        .ok mixedAlternatives ∧
      (tagTypes .long mixedTag).map Finding.rule =
        [.collectionStyle, .collectionStyle, .collectionType] ∧
      ∀ alternative ∈ mixedAlternatives,
        (∃ finding ∈ alternativeFindings mixedTypes .long alternative,
            finding.rule = .collectionStyle) ↔
          (∃ node ∈ alternative.type.nodes, node.IsWrittenIn .short) ∨
            ';' ∈ rawText mixedTypes alternative := by
  have isTyped : mixedTag.kind.isTyped = true := rfl
  have hasTypes : mixedTag.types = some mixedTypes := rfl
  have parsed := parseAlternatives_mixedTypes
  exact ⟨by decide +kernel, isTyped, hasTypes, parsed, by decide +kernel,
    (styleFinding_iff isTyped hasTypes parsed .long).2⟩

/-- A finding about style need not mean that a collection is written in the
other style: the first alternative is in the long style throughout, and is
reported to be in the short one for the semicolon between its types. -/
theorem styleFinding_for_semicolon :
    (tagTypes .long mixedTag).map Finding.message =
        ["`Array<A; B>` is using short style syntax",
          "`\x7bA => B\x7d` is using short style syntax",
          Mismatch.hashWithPairAngles.message] ∧
      ¬ ∀ alternative ∈ mixedAlternatives,
        (∃ finding ∈ alternativeFindings mixedTypes .long alternative,
            finding.rule = .collectionStyle) ↔
          ∃ node ∈ alternative.type.nodes, node.IsWrittenIn .short := by
  refine ⟨by decide +kernel, fun agrees => ?_⟩
  have reported := (agrees _ List.mem_cons_self).mp (by decide +kernel)
  exact absurd reported (by decide)

end Check
end DocLint
