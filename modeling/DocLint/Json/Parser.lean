import DocLint.Json.Basic
import DocLint.Json.Token

/-!
# Reading JSON texts

A text is one value with nothing behind it.  Names of object members may repeat.
-/

namespace DocLint
namespace Json

/-- An object of members whose names may be unreadable. -/
def ofMembers (members : List (Option String × Json)) : Json :=
  match members.mapM fun member =>
      member.1.map fun name => (name, member.2) with
  | some members => .object members
  | none => .unreadable

mutual

/-- Read one value. -/
def value? (tokens : List Token) : Option (Json × Rest tokens) :=
  match tokens with
  | .null :: _ => some (.null, Rest.tail)
  | .bool value :: _ => some (.bool value, Rest.tail)
  | .natural value :: _ => some (.natural value, Rest.tail)
  | .decimal negative mantissa exponent :: _ =>
    some (.decimal negative mantissa exponent, Rest.tail)
  | .string (some value) :: _ => some (.string value, Rest.tail)
  | .string none :: _ => some (.unreadable, Rest.tail)
  | .openArray :: .closeArray :: _ => some (.array [], Rest.behind Rest.tail)
  | .openArray :: rest =>
    match items? rest with
    | none => none
    | some (items, remaining) => some (.array items, Rest.behind remaining)
  | .openObject :: .closeObject :: _ => some (.object [], Rest.behind Rest.tail)
  | .openObject :: rest =>
    match members? rest with
    | none => none
    | some (members, remaining) =>
      some (ofMembers members, Rest.behind remaining)
  | _ => none
termination_by (tokens.length, 0)

/-- Read the items of an array, one at least, and the closing bracket. -/
def items? (tokens : List Token) : Option (List Json × Rest tokens) :=
  match value? tokens with
  | none => none
  | some (item, ⟨.closeArray :: _, less⟩) =>
    some ([item], Rest.after less Rest.tail)
  | some (item, ⟨.comma :: rest, less⟩) =>
    match items? rest with
    | none => none
    | some (items, remaining) =>
      some (item :: items, Rest.after less (Rest.behind remaining))
  | some _ => none
termination_by (tokens.length, 1)
decreasing_by
  · exact Prod.Lex.right _ Nat.zero_lt_one
  · exact Prod.Lex.left _ _ (Nat.lt_trans (Nat.lt_succ_self _) less)

/-- Read the members of an object, one at least, and the closing brace. -/
def members? (tokens : List Token) :
    Option (List (Option String × Json) × Rest tokens) :=
  match tokens with
  | .string name :: .colon :: rest =>
    match value? rest with
    | none => none
    | some (value, ⟨.closeObject :: _, less⟩) =>
      some ([(name, value)],
        Rest.behind (Rest.behind (Rest.after less Rest.tail)))
    | some (value, ⟨.comma :: rest, less⟩) =>
      match members? rest with
      | none => none
      | some (members, remaining) =>
        some ((name, value) :: members,
          Rest.behind (Rest.behind (Rest.after less (Rest.behind remaining))))
    | some _ => none
  | _ => none
termination_by (tokens.length, 0)
decreasing_by
  · exact Prod.Lex.left _ _ (by simp only [List.length_cons]; omega)
  · exact Prod.Lex.left _ _ (by simp only [List.length_cons] at less ⊢; omega)

end

/-- Read a text. -/
def parse? (text : List Char) : Option Json := do
  match ← value? (← tokens? text) with
  | (value, ⟨[], _⟩) => return value
  | _ => none

end Json
end DocLint
