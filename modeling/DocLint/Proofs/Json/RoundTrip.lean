import DocLint.Json.Parser
import DocLint.Proofs.Json.WrittenTokens

/-!
# Reading JSON that was written

Every value has a list of tokens.  Its compact text and its text over several
lines are both read as these tokens, and these tokens are read back as the
value, whatever follows them.  Reading therefore undoes writing, in either form
and for every value, unreadable ones included.
-/

namespace DocLint
namespace Json

/-! ## The tokens of a value -/

mutual

/-- The tokens of a value. -/
def tokensOf : Json → List Token
  | null => [.null]
  | bool value => [.bool value]
  | natural value => [.natural value]
  | decimal negative mantissa exponent =>
      [.decimal negative mantissa exponent]
  | string value => [.string (some value)]
  | array [] => [.openArray, .closeArray]
  | array (item :: rest) =>
      .openArray :: (tokensOf item ++ tokensOfRest rest ++ [.closeArray])
  | object [] => [.openObject, .closeObject]
  | object ((name, value) :: rest) =>
      .openObject :: (.string (some name) :: .colon :: tokensOf value ++
        tokensOfMembers rest ++ [.closeObject])
  | unreadable => [.string none]

/-- The tokens of further items of an array. -/
def tokensOfRest : List Json → List Token
  | [] => []
  | item :: rest => .comma :: (tokensOf item ++ tokensOfRest rest)

/-- The tokens of further members of an object. -/
def tokensOfMembers : List (String × Json) → List Token
  | [] => []
  | (name, value) :: rest =>
      .comma :: (.string (some name) :: .colon :: tokensOf value ++
        tokensOfMembers rest)

end

/-! ## Writing -/

namespace ReadsAs

variable {blanks : List Char}
variable (areSpaces : ∀ c ∈ blanks, isSpace c = true)

include areSpaces

/-- A text between brackets, with blanks on either side. -/
theorem enclosed
    {others : List Char}
    (otherSpaces : ∀ c ∈ others, isSpace c = true)
    {first last : Char}
    {opening closing : Token}
    (opens : punctuation? first = some opening)
    (closes : punctuation? last = some closing)
    {text : List Char}
    {tokens : List Token}
    (reads : ReadsAs text tokens) :
    ReadsAs (first :: (blanks ++ text ++ (others ++ [last])))
      (opening :: (tokens ++ [closing])) := by
  have ends : EndsNumber (others ++ [last]) :=
    .spaces otherSpaces (.cons (isNumberChar_of_punctuation? closes) [])
  have closed : ReadsAs (others ++ [last]) [closing] :=
    spaces otherSpaces (punctuation closes nil)
  exact punctuation opens ((spaces areSpaces reads).append ends closed)

/-- Items between brackets. -/
theorem brackets
    {others : List Char}
    (otherSpaces : ∀ c ∈ others, isSpace c = true)
    {text : List Char}
    {tokens : List Token}
    (reads : ReadsAs text tokens) :
    ReadsAs ('[' :: (blanks ++ text ++ (others ++ [']'])))
      (.openArray :: (tokens ++ [.closeArray])) :=
  enclosed areSpaces otherSpaces rfl rfl reads

/-- Members between braces. -/
theorem braces
    {others : List Char}
    (otherSpaces : ∀ c ∈ others, isSpace c = true)
    {text : List Char}
    {tokens : List Token}
    (reads : ReadsAs text tokens) :
    ReadsAs ('\x7b' :: (blanks ++ text ++ (others ++ ['\x7d'])))
      (.openObject :: (tokens ++ [.closeObject])) :=
  enclosed areSpaces otherSpaces rfl rfl reads

/-- A text behind a comma and blanks. -/
theorem behindComma
    {text : List Char}
    {tokens : List Token}
    (reads : ReadsAs text tokens) :
    ReadsAs (',' :: (blanks ++ text)) (.comma :: tokens) :=
  punctuation rfl (spaces areSpaces reads)

/-- A member, with blanks behind its colon. -/
theorem member
    (name : String)
    {text : List Char}
    {tokens : List Token}
    (reads : ReadsAs text tokens) :
    ReadsAs (Json.stringChars name ++ ':' :: (blanks ++ text))
      (.string (some name) :: .colon :: tokens) := by
  have value : ReadsAs (':' :: (blanks ++ text)) (.colon :: tokens) :=
    punctuation rfl (spaces areSpaces reads)
  exact (ReadsAs.string name).append (.cons rfl _) value

end ReadsAs

theorem noBlanks : ∀ c ∈ ([] : List Char), isSpace c = true :=
  List.forall_mem_nil _

theorem endsNumber_compactRest (items : List Json) :
    EndsNumber (compactRest items) := by
  cases items with
  | nil => exact .nil
  | cons item rest => exact .cons rfl _

theorem endsNumber_compactMembers (members : List (String × Json)) :
    EndsNumber (compactMembers members) := by
  cases members with
  | nil => exact .nil
  | cons member rest => exact .cons rfl _

mutual

/-- The compact text of a value is read as its tokens. -/
theorem readsAs_compactChars :
    (value : Json) → ReadsAs (compactChars value) (tokensOf value)
  | null => .null
  | bool true => .isTrue
  | bool false => .isFalse
  | natural value => .natural value
  | decimal negative mantissa exponent => .decimal negative mantissa exponent
  | string value => .string value
  | array [] => .punctuation rfl (.punctuation rfl .nil)
  | array (item :: rest) => by
      have items := (readsAs_compactChars item).append
        (endsNumber_compactRest rest) (readsAs_compactRest rest)
      exact .brackets noBlanks noBlanks items
  | object [] => .punctuation rfl (.punctuation rfl .nil)
  | object ((name, value) :: rest) => by
      have first := ReadsAs.member noBlanks name (readsAs_compactChars value)
      have members := first.append
        (endsNumber_compactMembers rest) (readsAs_compactMembers rest)
      exact .braces noBlanks noBlanks members
  | unreadable => .unreadable

theorem readsAs_compactRest :
    (items : List Json) → ReadsAs (compactRest items) (tokensOfRest items)
  | [] => .nil
  | item :: rest => by
      have items := (readsAs_compactChars item).append
        (endsNumber_compactRest rest) (readsAs_compactRest rest)
      exact .behindComma noBlanks items

theorem readsAs_compactMembers :
    (members : List (String × Json)) →
      ReadsAs (compactMembers members) (tokensOfMembers members)
  | [] => .nil
  | (name, value) :: rest => by
      have first := ReadsAs.member noBlanks name (readsAs_compactChars value)
      have members := first.append
        (endsNumber_compactMembers rest) (readsAs_compactMembers rest)
      exact .behindComma noBlanks members

end

theorem isSpace_newline (level : Nat) :
    ∀ c ∈ newline level, isSpace c = true := by
  intro c member
  rcases List.mem_cons.mp member with rfl | member
  · rfl
  · rw [List.eq_of_mem_replicate member]
    rfl

theorem oneBlank : ∀ c ∈ [' '], isSpace c = true :=
  List.forall_mem_singleton.mpr rfl

theorem endsNumber_prettyRest (level : Nat) (items : List Json) :
    EndsNumber (prettyRest level items) := by
  cases items with
  | nil => exact .nil
  | cons item rest => exact .cons rfl _

theorem endsNumber_prettyMembers
    (level : Nat)
    (members : List (String × Json)) :
    EndsNumber (prettyMembers level members) := by
  cases members with
  | nil => exact .nil
  | cons member rest => exact .cons rfl _

mutual

/-- The text of a value over several lines is read as its tokens. -/
theorem readsAs_prettyChars
    (level : Nat) :
    (value : Json) → ReadsAs (prettyChars level value) (tokensOf value)
  | null => .null
  | bool true => .isTrue
  | bool false => .isFalse
  | natural value => .natural value
  | decimal negative mantissa exponent => .decimal negative mantissa exponent
  | string value => .string value
  | array [] => .punctuation rfl (.punctuation rfl .nil)
  | array (item :: rest) => by
      have items := (readsAs_prettyChars (level + 1) item).append
        (endsNumber_prettyRest (level + 1) rest)
        (readsAs_prettyRest (level + 1) rest)
      simpa [prettyChars, tokensOf] using
        ReadsAs.brackets (isSpace_newline (level + 1)) (isSpace_newline level)
          items
  | object [] => .punctuation rfl (.punctuation rfl .nil)
  | object ((name, value) :: rest) => by
      have first := ReadsAs.member oneBlank name
        (readsAs_prettyChars (level + 1) value)
      have members := first.append
        (endsNumber_prettyMembers (level + 1) rest)
        (readsAs_prettyMembers (level + 1) rest)
      simpa [prettyChars, tokensOf] using
        ReadsAs.braces (isSpace_newline (level + 1)) (isSpace_newline level)
          members
  | unreadable => .unreadable

theorem readsAs_prettyRest
    (level : Nat) :
    (items : List Json) →
      ReadsAs (prettyRest level items) (tokensOfRest items)
  | [] => .nil
  | item :: rest => by
      have items := (readsAs_prettyChars level item).append
        (endsNumber_prettyRest level rest) (readsAs_prettyRest level rest)
      simpa [prettyRest, tokensOfRest] using
        ReadsAs.behindComma (isSpace_newline level) items

theorem readsAs_prettyMembers
    (level : Nat) :
    (members : List (String × Json)) →
      ReadsAs (prettyMembers level members) (tokensOfMembers members)
  | [] => .nil
  | (name, value) :: rest => by
      have first := ReadsAs.member oneBlank name (readsAs_prettyChars level value)
      have members := first.append
        (endsNumber_prettyMembers level rest) (readsAs_prettyMembers level rest)
      simpa [prettyMembers, tokensOfMembers] using
        ReadsAs.behindComma (isSpace_newline level) members

end

/-! ## Reading -/

/-- The tokens of a value start with no closing bracket. -/
theorem exists_first_token (value : Json) :
    ∃ first others,
      tokensOf value = first :: others ∧ first ≠ .closeArray := by
  cases value with
  | array items => cases items <;> exact ⟨_, _, rfl, by simp⟩
  | object members => cases members <;> exact ⟨_, _, rfl, by simp⟩
  | _ => exact ⟨_, _, rfl, by simp⟩

theorem ofMembers_named (members : List (String × Json)) :
    ofMembers (members.map fun member => (some member.1, member.2)) =
      .object members := by
  have named : (members.map fun member =>
      ((some member.1, member.2) : Option String × Json)).mapM
        (fun member => member.1.map fun name => (name, member.2)) =
      some (members.map id) := by
    rw [List.mapM_map]
    exact List.mapM_pure
  rw [ofMembers, named, List.map_id]

theorem value?_openArray
    {tokens rest : List Token}
    {items : List Json}
    (opens : tokens.head? ≠ some .closeArray)
    (read : Leaves (items? tokens) items rest) :
    Leaves (value? (.openArray :: tokens)) (.array items) rest := by
  obtain ⟨less, read⟩ := read
  rw [value?]
  · rw [read]
    exact ⟨_, rfl⟩
  · rintro others rfl
    exact opens rfl

theorem value?_openObject
    {tokens rest : List Token}
    {members : List (Option String × Json)}
    (opens : tokens.head? ≠ some .closeObject)
    (read : Leaves (members? tokens) members rest) :
    Leaves (value? (.openObject :: tokens)) (ofMembers members) rest := by
  obtain ⟨less, read⟩ := read
  rw [value?]
  · rw [read]
    exact ⟨_, rfl⟩
  · rintro others rfl
    exact opens rfl

theorem items?_last
    {tokens rest : List Token}
    {item : Json}
    (read : Leaves (value? tokens) item (.closeArray :: rest)) :
    Leaves (items? tokens) [item] rest := by
  obtain ⟨less, read⟩ := read
  rw [items?, read]
  exact ⟨_, rfl⟩

theorem items?_cons
    {tokens others rest : List Token}
    {item : Json}
    {items : List Json}
    (read : Leaves (value? tokens) item (.comma :: others))
    (readOthers : Leaves (items? others) items rest) :
    Leaves (items? tokens) (item :: items) rest := by
  obtain ⟨less, read⟩ := read
  obtain ⟨lessOthers, readOthers⟩ := readOthers
  rw [items?, read]
  simp only [readOthers]
  exact ⟨_, rfl⟩

theorem members?_last
    {name : Option String}
    {tokens rest : List Token}
    {value : Json}
    (read : Leaves (value? tokens) value (.closeObject :: rest)) :
    Leaves (members? (.string name :: .colon :: tokens)) [(name, value)] rest := by
  obtain ⟨less, read⟩ := read
  rw [members?, read]
  exact ⟨_, rfl⟩

theorem members?_cons
    {name : Option String}
    {tokens others rest : List Token}
    {value : Json}
    {members : List (Option String × Json)}
    (read : Leaves (value? tokens) value (.comma :: others))
    (readOthers : Leaves (members? others) members rest) :
    Leaves (members? (.string name :: .colon :: tokens)) ((name, value) :: members)
      rest := by
  obtain ⟨less, read⟩ := read
  obtain ⟨lessOthers, readOthers⟩ := readOthers
  rw [members?, read]
  simp only [readOthers]
  exact ⟨_, rfl⟩

mutual

/-- The tokens of a value are read as the value, whatever follows them. -/
theorem value?_tokensOf :
    (value : Json) → (rest : List Token) →
      Leaves (value? (tokensOf value ++ rest)) value rest
  | null, rest => by
      rw [tokensOf, List.singleton_append, value?]
      exact ⟨_, rfl⟩
  | bool value, rest => by
      rw [tokensOf, List.singleton_append, value?]
      exact ⟨_, rfl⟩
  | natural value, rest => by
      rw [tokensOf, List.singleton_append, value?]
      exact ⟨_, rfl⟩
  | decimal negative mantissa exponent, rest => by
      rw [tokensOf, List.singleton_append, value?]
      exact ⟨_, rfl⟩
  | string value, rest => by
      rw [tokensOf, List.singleton_append, value?]
      exact ⟨_, rfl⟩
  | unreadable, rest => by
      rw [tokensOf, List.singleton_append, value?]
      exact ⟨_, rfl⟩
  | array [], rest => by
      rw [tokensOf, List.cons_append, List.singleton_append, value?]
      exact ⟨_, rfl⟩
  | array (item :: items), rest => by
      obtain ⟨first, others, starts, notClosing⟩ := exists_first_token item
      have read := items?_tokensOf items rest (value?_tokensOf item _)
      rw [tokensOf, List.cons_append, List.append_assoc, List.append_assoc,
        List.singleton_append]
      refine value?_openArray ?_ read
      simpa [starts] using notClosing
  | object [], rest => by
      rw [tokensOf, List.cons_append, List.singleton_append, value?]
      exact ⟨_, rfl⟩
  | object ((name, value) :: members), rest => by
      have read := members?_tokensOf name members rest (value?_tokensOf value _)
      rw [tokensOf, List.cons_append, List.append_assoc, List.append_assoc,
        List.singleton_append, ← ofMembers_named]
      exact value?_openObject (by simp) read

/-- Further items are read behind one that leaves them. -/
theorem items?_tokensOf :
    (items : List Json) →
      {tokens : List Token} → {item : Json} → (rest : List Token) →
        Leaves (value? tokens) item (tokensOfRest items ++ .closeArray :: rest) →
          Leaves (items? tokens) (item :: items) rest
  | [], _, _, _, read => items?_last read
  | next :: items, _, _, rest, read => by
      have readNext := value?_tokensOf next
        (tokensOfRest items ++ .closeArray :: rest)
      rw [tokensOfRest, List.cons_append, List.append_assoc] at read
      exact items?_cons read (items?_tokensOf items rest readNext)

/-- Further members are read behind one that leaves them. -/
theorem members?_tokensOf :
    (name : String) → (members : List (String × Json)) →
      {tokens : List Token} → {value : Json} → (rest : List Token) →
        Leaves (value? tokens) value
          (tokensOfMembers members ++ .closeObject :: rest) →
        Leaves (members? (.string (some name) :: .colon :: tokens))
          (((name, value) :: members).map fun member =>
            (some member.1, member.2)) rest
  | _, [], _, _, _, read => members?_last read
  | _, (next, value) :: members, _, _, rest, read => by
      have readNext := value?_tokensOf value
        (tokensOfMembers members ++ .closeObject :: rest)
      rw [tokensOfMembers, List.cons_append, List.append_assoc] at read
      exact members?_cons read (members?_tokensOf next members rest readNext)

end

/-- A text that is read as the tokens of a value is read as the value. -/
theorem parse?_of_readsAs
    {text : List Char}
    {value : Json}
    (reads : ReadsAs text (tokensOf value)) :
    parse? text = some value := by
  have tokens := reads [] .nil
  obtain ⟨less, read⟩ := value?_tokensOf value []
  rw [List.append_nil, tokens?, Option.map_some] at tokens
  rw [parse?, tokens, Option.bind_eq_bind, Option.bind_some, Option.bind_eq_bind,
    read, Option.bind_some]
  rfl

theorem parse?_compact (value : Json) :
    parse? value.compact.toList = some value := by
  rw [compact, String.toList_ofList]
  exact parse?_of_readsAs (readsAs_compactChars value)

theorem parse?_pretty (value : Json) :
    parse? value.pretty.toList = some value := by
  rw [pretty, String.toList_ofList]
  exact parse?_of_readsAs (readsAs_prettyChars 0 value)

/-- A line break behind a text over several lines is passed over. -/
theorem parse?_pretty_line (value : Json) :
    parse? (value.pretty ++ "\n").toList = some value := by
  have line : ReadsAs ['\n'] [] := ReadsAs.space rfl .nil
  have reads := (readsAs_prettyChars 0 value).append (.cons rfl []) line
  rw [List.append_nil] at reads
  rw [String.toList_append, pretty, String.toList_ofList]
  exact parse?_of_readsAs reads

end Json
end DocLint
