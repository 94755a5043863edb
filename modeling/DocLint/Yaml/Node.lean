import DocLint.Rest
import DocLint.Yaml.Token

/-!
# Documents of YAML texts

A text holds one document, and a document is a tree of scalars, sequences and
mappings.  What is left out where a node may stand is the empty scalar without
quotes.  A node with an anchor may be referred to from other places behind the
anchor, also from inside of the node itself.
-/

namespace DocLint
namespace Yaml

/-- A part of a document.  Only scalars keep their tags. -/
inductive Node
  | scalar (text : String) (style : ScalarStyle) (tag : Option Tag)
  | sequence (items : List Node)
  | mapping (entries : List (Node × Node))
  | anchored (number : Nat) (node : Node)
  | reference (number : Nat)
  deriving Repr, Inhabited

namespace Node

/-- What stands for a node that is left out. -/
def empty : Node := .scalar "" .plain none

/-- What is left of some tokens, perhaps all of them. -/
abbrev Remaining (tokens : List Token) :=
  { rest : List Token // rest.length ≤ tokens.length }

/-- Whether tokens start with one of some kind. -/
def startsWith (kinds : List Token) (tokens : List Token) : Bool :=
  tokens.head?.any kinds.contains

/-! ## Properties -/

/-- What stands in front of a node. -/
structure Properties where
  anchor : Option Nat := none
  tag : Option Tag := none

namespace Properties

/-- Read an anchor, a tag, or both in either order. -/
def read (tokens : List Token) : Properties × Remaining tokens :=
  match tokens with
  | .anchor number :: .tag tag :: rest =>
    (⟨some number, some tag⟩, ⟨rest, by simp only [List.length_cons]; omega⟩)
  | .tag tag :: .anchor number :: rest =>
    (⟨some number, some tag⟩, ⟨rest, by simp only [List.length_cons]; omega⟩)
  | .anchor number :: rest => (⟨some number, none⟩, ⟨rest, Nat.le_succ _⟩)
  | .tag tag :: rest => (⟨none, some tag⟩, ⟨rest, Nat.le_succ _⟩)
  | tokens => ({}, ⟨tokens, Nat.le_refl _⟩)

/-- The tag of a scalar.  An exclamation mark alone is none. -/
def scalarTag (properties : Properties) : Option Tag :=
  properties.tag.filter (· != Tag.ofText "!")

/-- A node with its anchor. -/
def anchored (properties : Properties) (node : Node) : Node :=
  match properties.anchor with
  | some number => .anchored number node
  | none => node

end Properties

/-- Whether a node starts with these tokens.  Collections laid out in lines
start only where `block` is set, and items without a collection of their own
only where `loose` is. -/
def startsContent (block loose : Bool) : List Token → Bool
  | .scalar _ _ :: _ => true
  | .openSequence :: _ => true
  | .openMapping :: _ => true
  | .blockSequence :: _ => block
  | .blockMapping :: _ => block
  | .item :: _ => loose
  | _ => false

/-! ## Nodes -/

mutual

/-- Read a node behind its properties. -/
def content?
    (tag : Option Tag)
    (tokens : List Token) :
    Option (Node × Rest tokens) :=
  match tokens with
  | .scalar text style :: _ => some (.scalar text style tag, Rest.tail)
  | .openSequence :: rest =>
    match flowItems? true rest with
    | none => none
    | some (items, remaining) => some (.sequence items, Rest.behind remaining)
  | .openMapping :: rest =>
    match flowEntries? true rest with
    | none => none
    | some (entries, remaining) =>
      some (.mapping entries, Rest.behind remaining)
  | .blockSequence :: rest =>
    match blockItems? rest with
    | none => none
    | some (items, remaining) => some (.sequence items, Rest.behind remaining)
  | .blockMapping :: rest =>
    match blockEntries? rest with
    | none => none
    | some (entries, remaining) =>
      some (.mapping entries, Rest.behind remaining)
  | .item :: rest =>
    match looseItem? rest with
    | none => none
    | some (first, ⟨remaining, le⟩) =>
      match looseItems? remaining with
      | none => none
      | some (items, ⟨remaining', le'⟩) =>
        some (.sequence (first :: items),
          ⟨remaining', by simp only [List.length_cons]; omega⟩)
  | _ => none
termination_by (tokens.length, 0)
decreasing_by
  all_goals exact Prod.Lex.left _ _ (by simp only [List.length_cons]; omega)

/-- Read a node: a reference, or properties and what they belong to.  Behind
properties it may be left out. -/
def node?
    (block loose : Bool)
    (tokens : List Token) :
    Option (Node × Rest tokens) :=
  match tokens with
  | .reference number :: _ => some (.reference number, Rest.tail)
  | tokens =>
    match Properties.read tokens with
    | (properties, ⟨rest, le⟩) =>
      if startsContent block loose rest then
        match content? properties.scalarTag rest with
        | none => none
        | some (node, ⟨remaining, less⟩) =>
          some (properties.anchored node,
            ⟨remaining, Nat.lt_of_lt_of_le less le⟩)
      else if less : rest.length < tokens.length then
        some (properties.anchored (.scalar "" .plain properties.tag),
          ⟨rest, less⟩)
      else none
termination_by (tokens.length, 1)
decreasing_by
  rcases Nat.lt_or_eq_of_le le with less | same
  · exact Prod.Lex.left _ _ less
  · rw [same]
    exact Prod.Lex.right _ (by omega)

/-- Read a node, unless one of some tokens shows that it is left out. -/
def nodeUnless?
    (stops : List Token)
    (block loose : Bool)
    (tokens : List Token) :
    Option (Node × Remaining tokens) :=
  if startsWith stops tokens then some (empty, ⟨tokens, Nat.le_refl _⟩)
  else
    match node? block loose tokens with
    | none => none
    | some (node, ⟨remaining, less⟩) =>
      some (node, ⟨remaining, Nat.le_of_lt less⟩)
termination_by (tokens.length, 2)
decreasing_by exact Prod.Lex.right _ (by omega)

/-- Read the value behind a colon; without the colon it is left out. -/
def valueUnless?
    (stops : List Token)
    (block loose : Bool)
    (tokens : List Token) :
    Option (Node × Remaining tokens) :=
  match tokens with
  | .value :: rest =>
    match nodeUnless? stops block loose rest with
    | none => none
    | some (node, ⟨remaining, le⟩) =>
      some (node, ⟨remaining, Nat.le_succ_of_le le⟩)
  | tokens => some (empty, ⟨tokens, Nat.le_refl _⟩)
termination_by (tokens.length, 0)
decreasing_by exact Prod.Lex.left _ _ (by simp)

/-- Read a key and its value. -/
def entry?
    (keyStops valueStops : List Token)
    (block loose : Bool)
    (tokens : List Token) :
    Option ((Node × Node) × Remaining tokens) :=
  match nodeUnless? keyStops block loose tokens with
  | none => none
  | some (key, ⟨remaining, le⟩) =>
    match valueUnless? valueStops block loose remaining with
    | none => none
    | some (value, ⟨remaining', le'⟩) =>
      some ((key, value), ⟨remaining', Nat.le_trans le' le⟩)
termination_by (tokens.length, 3)
decreasing_by
  · exact Prod.Lex.right _ (by omega)
  · rcases Nat.lt_or_eq_of_le le with less | same
    · exact Prod.Lex.left _ _ less
    · rw [same]
      exact Prod.Lex.right _ (by omega)

/-- Read the items of a sequence laid out in lines, and its end. -/
def blockItems? (tokens : List Token) : Option (List Node × Rest tokens) :=
  match tokens with
  | .blockEnd :: _ => some ([], Rest.tail)
  | .item :: rest =>
    match nodeUnless? [.item, .blockEnd] true false rest with
    | none => none
    | some (node, ⟨remaining, le⟩) =>
      match blockItems? remaining with
      | none => none
      | some (nodes, ⟨remaining', less⟩) =>
        some (node :: nodes,
          ⟨remaining', by simp only [List.length_cons]; omega⟩)
  | _ => none
termination_by (tokens.length, 0)
decreasing_by
  all_goals exact Prod.Lex.left _ _ (by simp only [List.length_cons]; omega)

/-- Read an item without a collection of its own, from behind its hyphen. -/
def looseItem? (tokens : List Token) : Option (Node × Remaining tokens) :=
  nodeUnless? [.item, .key, .value, .blockEnd] true false tokens
termination_by (tokens.length, 3)
decreasing_by exact Prod.Lex.right _ (by omega)

/-- Read further items without a collection of their own. -/
def looseItems?
    (tokens : List Token) :
    Option (List Node × Remaining tokens) :=
  match tokens with
  | .item :: rest =>
    match looseItem? rest with
    | none => none
    | some (node, ⟨remaining, le⟩) =>
      match looseItems? remaining with
      | none => none
      | some (nodes, ⟨remaining', le'⟩) =>
        some (node :: nodes,
          ⟨remaining', by simp only [List.length_cons]; omega⟩)
  | tokens => some ([], ⟨tokens, Nat.le_refl _⟩)
termination_by (tokens.length, 0)
decreasing_by
  all_goals exact Prod.Lex.left _ _ (by simp only [List.length_cons]; omega)

/-- Read the entries of a mapping laid out in lines, and its end. -/
def blockEntries?
    (tokens : List Token) :
    Option (List (Node × Node) × Rest tokens) :=
  match tokens with
  | .blockEnd :: _ => some ([], Rest.tail)
  | .key :: rest =>
    let stops : List Token := [.key, .value, .blockEnd]
    match entry? stops stops true true rest with
    | none => none
    | some (entry, ⟨remaining, le⟩) =>
      match blockEntries? remaining with
      | none => none
      | some (entries, ⟨remaining', less⟩) =>
        some (entry :: entries,
          ⟨remaining', by simp only [List.length_cons]; omega⟩)
  | _ => none
termination_by (tokens.length, 0)
decreasing_by
  all_goals exact Prod.Lex.left _ _ (by simp only [List.length_cons]; omega)

/-- Read an item of a sequence in brackets: a node, or a single entry of a
mapping.  Where the key of the entry is left out, the token that shows it is
taken in with it. -/
def flowItem? (tokens : List Token) : Option (Node × Rest tokens) :=
  match tokens with
  | .key :: next :: rest =>
    if [Token.value, .comma, .closeSequence].contains next then
      match valueUnless? [.comma, .closeSequence] false false rest with
      | none => none
      | some (value, ⟨remaining, le⟩) =>
        some (.mapping [(empty, value)],
          ⟨remaining, by simp only [List.length_cons]; omega⟩)
    else
      match entry? [] [.comma, .closeSequence] false false (next :: rest) with
      | none => none
      | some (entry, ⟨remaining, le⟩) =>
        some (.mapping [entry], ⟨remaining, Nat.lt_succ_of_le le⟩)
  | tokens => node? false false tokens
termination_by (tokens.length, 2)
decreasing_by
  · exact Prod.Lex.left _ _ (by simp only [List.length_cons]; omega)
  · exact Prod.Lex.left _ _ (by simp)
  · exact Prod.Lex.right _ (by omega)

/-- Read the items of a sequence in brackets, and its closing bracket.  A comma
stands in front of all items but the first, and one more may stand at the
end. -/
def flowItems?
    (first : Bool)
    (tokens : List Token) :
    Option (List Node × Rest tokens) :=
  match tokens with
  | .closeSequence :: _ => some ([], Rest.tail)
  | .comma :: .closeSequence :: _ =>
    if first then none else some ([], Rest.behind Rest.tail)
  | .comma :: rest =>
    if first then none
    else
      match flowItem? rest with
      | none => none
      | some (item, ⟨remaining, less⟩) =>
        match flowItems? false remaining with
        | none => none
        | some (items, ⟨remaining', less'⟩) =>
          some (item :: items,
            ⟨remaining', by simp only [List.length_cons]; omega⟩)
  | tokens =>
    if first then
      match flowItem? tokens with
      | none => none
      | some (item, ⟨remaining, less⟩) =>
        match flowItems? false remaining with
        | none => none
        | some (items, ⟨remaining', less'⟩) =>
          some (item :: items, ⟨remaining', by omega⟩)
    else none
termination_by (tokens.length, 3)
decreasing_by
  · exact Prod.Lex.left _ _ (by simp)
  · exact Prod.Lex.left _ _ (by simp only [List.length_cons]; omega)
  · exact Prod.Lex.right _ (by omega)
  · exact Prod.Lex.left _ _ less

/-- Read an entry of a mapping in brackets.  A node alone is a key without a
value. -/
def flowEntry?
    (tokens : List Token) :
    Option ((Node × Node) × Rest tokens) :=
  match tokens with
  | .key :: rest =>
    match entry? [.value, .comma, .closeMapping] [.comma, .closeMapping]
        false false rest with
    | none => none
    | some (entry, ⟨remaining, le⟩) =>
      some (entry, ⟨remaining, Nat.lt_succ_of_le le⟩)
  | tokens =>
    match node? false false tokens with
    | none => none
    | some (node, rest) => some ((node, empty), rest)
termination_by (tokens.length, 2)
decreasing_by
  · exact Prod.Lex.left _ _ (by simp)
  · exact Prod.Lex.right _ (by omega)

/-- Read the entries of a mapping in brackets, and its closing bracket.  Commas
stand as in a sequence. -/
def flowEntries?
    (first : Bool)
    (tokens : List Token) :
    Option (List (Node × Node) × Rest tokens) :=
  match tokens with
  | .closeMapping :: _ => some ([], Rest.tail)
  | .comma :: .closeMapping :: _ =>
    if first then none else some ([], Rest.behind Rest.tail)
  | .comma :: rest =>
    if first then none
    else
      match flowEntry? rest with
      | none => none
      | some (entry, ⟨remaining, less⟩) =>
        match flowEntries? false remaining with
        | none => none
        | some (entries, ⟨remaining', less'⟩) =>
          some (entry :: entries,
            ⟨remaining', by simp only [List.length_cons]; omega⟩)
  | tokens =>
    if first then
      match flowEntry? tokens with
      | none => none
      | some (entry, ⟨remaining, less⟩) =>
        match flowEntries? false remaining with
        | none => none
        | some (entries, ⟨remaining', less'⟩) =>
          some (entry :: entries, ⟨remaining', by omega⟩)
    else none
termination_by (tokens.length, 3)
decreasing_by
  · exact Prod.Lex.left _ _ (by simp)
  · exact Prod.Lex.left _ _ (by simp only [List.length_cons]; omega)
  · exact Prod.Lex.right _ (by omega)
  · exact Prod.Lex.left _ _ less

end

/-! ## Documents -/

/-- The node of a document, or an empty one if nothing is left but the ends of
documents. -/
def single? (tokens : List Token) : Option Node :=
  match node? true false tokens with
  | some (node, ⟨rest, _⟩) =>
    if rest.all (· == .documentEnd) then some node else none
  | none => none

/-- Whether a token is a directive. -/
def isDirective : Token → Bool
  | .directive _ => true
  | _ => false

/-- The document of some tokens.  Tokens without a document stand for an empty
one.  Directives come first, the version at most once, and the mark of a
document comes behind them. -/
def ofTokens? (tokens : List Token) : Option Node :=
  let directives := tokens.takeWhile isDirective
  if 1 < directives.count (.directive true) then none
  else
    match tokens.dropWhile isDirective with
    | .documentStart :: rest =>
      if rest.all (· == .documentEnd) then some empty else single? rest
    | rest =>
      if !directives.isEmpty then none
      else if rest.isEmpty then some empty
      else single? rest

mutual

/-- The nodes with anchors in a node, each with its number, in the order of the
text. -/
def anchors : Node → List (Nat × Node)
  | .scalar _ _ _ => []
  | .reference _ => []
  | .sequence items => anchorsOfItems items
  | .mapping entries => anchorsOfEntries entries
  | .anchored number node => (number, node) :: anchors node

/-- The nodes with anchors in some items. -/
def anchorsOfItems : List Node → List (Nat × Node)
  | [] => []
  | item :: rest => anchors item ++ anchorsOfItems rest

/-- The nodes with anchors in some entries. -/
def anchorsOfEntries : List (Node × Node) → List (Nat × Node)
  | [] => []
  | (key, value) :: rest =>
    anchors key ++ anchors value ++ anchorsOfEntries rest

end

end Node
end Yaml
end DocLint
