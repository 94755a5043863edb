import DocLint.Proofs.Checked.Body
import DocLint.Proofs.Checked.TypeLists

/-!
# Reading tags by byte positions

A tag is read from the text of its body.  The stretches that are found in the
text are cut out of it, and their pieces are found in the segments of the body.
Each field of the tag is the same as the one that is read from lists of
characters.
-/

namespace DocLint
namespace Checked

open Text

/-! ## The texts of a tag -/

/-- Number of bytes of a name without one comma or colon at its end, unless that
is all of it. -/
def trimmedLength (name : List Char) (length : Nat) : Nat :=
  match name.reverse with
  | ',' :: c :: rest => byteLength (c :: rest).reverse
  | ':' :: c :: rest => byteLength (c :: rest).reverse
  | _ => length

/-- The text of a name. -/
def nameText (buffer : Buffer) (word : Stretch) : Except Fault TagText := do
  let name ← partBetween buffer.chars word.start word.stop
  let length := trimmedLength name (word.stop - word.start)
  buffer.textAt word.start (word.start + length)

/-- The first text in square brackets from a byte position on. -/
def findBracketed
    (buffer : Buffer)
    (start : Nat) : Except Fault (Option TagText) := do
  let rest ← partFrom buffer.chars start
  match Cutting.firstBracketed? [] rest with
  | none => return none
  | some found =>
    let stretch := Stretch.ofCutting found
    let text ← buffer.textAt (start + stretch.start) (start + stretch.stop)
    return some text

/-- Read types and a name, in either order, from a byte position on. -/
def typesAndName (buffer : Buffer) (start : Nat) : Except Fault TagFields := do
  let split ← splitTypeList buffer.chars start
  match split.types with
  | some types =>
    let word ← namingWord buffer.chars split
    let name ← word.mapM (nameText buffer)
    let types ← buffer.textAt types.start types.stop
    return { name, types := some types }
  | none =>
    let word ← nextWord buffer.chars start
    let name ← word.mapM (nameText buffer)
    let misplacedTypes ← findBracketed buffer start
    return { name, misplacedTypes }

/-- Read the name of a holder, then the types and name of an option. -/
def option (buffer : Buffer) : Except Fault TagFields := do
  let word ← nextWord buffer.chars 0
  match word with
  | none => return {}
  | some word =>
    let text ← partBetween buffer.chars word.start word.stop
    if text.head? = some '[' then
      let misplacedTypes ← findBracketed buffer 0
      return { misplacedTypes }
    else
      let name ← nameText buffer word
      let fields ← typesAndName buffer word.stop
      return { fields with name := some name, key := fields.name }

/-- Read types that have no name. -/
def typesOnly (buffer : Buffer) : Except Fault TagFields := do
  let split ← splitTypeList buffer.chars 0
  match split.word, split.types with
  | none, some types =>
    let types ← buffer.textAt types.start types.stop
    return { types := some types }
  | _, _ =>
    let misplacedTypes ← findBracketed buffer 0
    return { misplacedTypes }

/-- Read a tag from its directive and its body. -/
def buildTag
    (lineIndex : Nat)
    (directive : String)
    (buffer : Buffer) : Except Fault Tag := do
  let build (kind : TagKind) (fields : TagFields) : Tag :=
    { kind, directive, lineIndex
      name := fields.name
      key := fields.key
      types := fields.types
      misplacedTypes := fields.misplacedTypes
      text := String.ofList buffer.chars }
  match Cutting.reference? buffer.chars with
  | some word =>
    let name ← (word.map Stretch.ofCutting).mapM (nameText buffer)
    return build .reference { name }
  | none =>
    let kind := TagKind.ofDirective directive
    let fields ←
      match kind with
      | .param | .yieldParam => typesAndName buffer 0
      | .option => option buffer
      | .returns | .raise | .yieldReturn => typesOnly buffer
      | .reference | .overload | .other => pure {}
    return build kind fields

section Texts

variable {body : Body}
variable {before rest : List Char}

theorem trimmedLength_eq (cutting : Cutting) :
    trimmedLength cutting.text (byteLength cutting.text) =
      byteLength cutting.trimName.text := by
  fun_cases Cutting.trimName cutting with
  | case1 c rest reversed => simp only [trimmedLength, reversed]
  | case2 c rest reversed => simp only [trimmedLength, reversed]
  | case3 noComma noColon =>
      unfold trimmedLength
      split
      · rename_i c rest reversed
        exact (noComma c rest reversed).elim
      · rename_i c rest reversed
        exact (noColon c rest reversed).elim
      · rfl

theorem before_trimName (cutting : Cutting) :
    cutting.trimName.before = cutting.before := by
  unfold Cutting.trimName
  split <;> rfl

/-- The name that is read is the one that is cut out. -/
theorem nameText_eq
    {cutting : Cutting}
    (isOf : cutting.IsOf body.chars) :
    nameText (Buffer.ofBody body) (Stretch.ofCutting cutting) =
      .ok (body.cutting cutting.trimName) := by
  obtain ⟨_, trimmed⟩ := isOf.trimName
  obtain ⟨after, chars⟩ := isOf
  have name := Buffer.textAt_ofBody trimmed
  have whole := partBetween_append cutting.before cutting.text after
  rw [← chars] at whole
  rw [before_trimName] at name
  simp only [nameText, Stretch.ofCutting, Nat.add_sub_cancel_left,
    Buffer.chars_ofBody]
  rw [whole, ok_bind, trimmedLength_eq, name, Body.cutting, before_trimName]

/-- Names that may be missing are read like the others. -/
theorem mapM_nameText
    {word : Option Cutting}
    (areOf : ∀ cutting, word = some cutting → cutting.IsOf body.chars) :
    (word.map Stretch.ofCutting).mapM (nameText (Buffer.ofBody body)) =
      .ok (word.map fun cutting => body.cutting cutting.trimName) := by
  cases word with
  | none => rfl
  | some cutting =>
      rw [Option.map_some, Option.mapM_some, nameText_eq (areOf cutting rfl)]
      rfl

theorem firstBracketed?_append (front before rest : List Char) :
    Cutting.firstBracketed? (front ++ before) rest =
      (Cutting.firstBracketed? before rest).map fun found =>
        ⟨front ++ found.before, found.text⟩ := by
  induction rest generalizing before with
  | nil => rfl
  | cons c rest hypothesis =>
      unfold Cutting.firstBracketed?
      dsimp only
      split
      · rfl
      · rw [List.append_assoc, hypothesis]

/-- The text in brackets that is found is the first one. -/
theorem findBracketed_eq
    (chars : body.chars = before ++ rest) :
    findBracketed (Buffer.ofBody body) (byteLength before) =
      .ok ((Cutting.firstBracketed? before rest).map body.cutting) := by
  have moved := firstBracketed?_append before [] rest
  rw [List.append_nil] at moved
  rw [findBracketed, Buffer.chars_ofBody, chars, partFrom_append, ok_bind]
  cases found : Cutting.firstBracketed? [] rest with
  | none =>
      rw [moved, found]
      rfl
  | some cutting =>
      rw [found] at moved
      obtain ⟨after, whole⟩ := Cutting.isOf_of_firstBracketed? moved
      rw [← chars] at whole
      have text := Buffer.textAt_ofBody whole
      rw [byteLength_append, Nat.add_assoc] at text
      simp only [Stretch.ofCutting]
      rw [text, moved]
      rfl

/-- Types and a name are read as they are cut out. -/
theorem typesAndName_eq
    (chars : body.chars = before ++ rest) :
    typesAndName (Buffer.ofBody body) (byteLength before) =
      .ok (TagFields.typesAndName body before rest) := by
  have wordIsOf : ∀ cutting, Cutting.firstWord? before rest = some cutting →
      cutting.IsOf body.chars := by
    intro cutting found
    rw [chars]
    exact Cutting.isOf_of_firstWord? found
  rw [typesAndName, TagFields.typesAndName, Buffer.chars_ofBody, chars]
  cases found : TypeListCut.ofChars? rest with
  | none =>
      obtain ⟨word, split⟩ := splitTypeList_of_none found before
      rw [split, ok_bind]
      dsimp only
      rw [nextWord_eq, ok_bind, mapM_nameText wordIsOf, ok_bind,
        findBracketed_eq chars, ok_bind]
      rfl
  | some cut =>
      have whole : body.chars =
          before ++ cut.lead ++ cut.inside ++ TypeListCut.closing cut.after := by
        rw [chars, TypeListCut.chars_of_ofChars? found]
        simp
      have types := Buffer.textAt_ofBody whole
      have wordIsOf : ∀ cutting, namingCutting before cut = some cutting →
          cutting.IsOf body.chars := by
        intro cutting named
        rw [whole]
        exact isOf_of_namingCutting named
      rw [splitTypeList_of_cut found before, ok_bind, ← chars, whole]
      simp only [Stretch.ofCutting]
      rw [namingWord_eq, ok_bind, mapM_nameText wordIsOf, ok_bind, types]
      rfl

end Texts

section Tags

variable (body : Body)

theorem partBetween_ofCutting
    {cutting : Cutting}
    (isOf : cutting.IsOf body.chars) :
    partBetween body.chars (Stretch.ofCutting cutting).start
        (Stretch.ofCutting cutting).stop = .ok cutting.text := by
  obtain ⟨after, chars⟩ := isOf
  rw [chars]
  exact partBetween_append cutting.before cutting.text after

theorem append_of_firstWord?
    {text : List Char}
    {word : Cutting}
    (found : Cutting.firstWord? [] text = some word) :
    text = word.before ++ word.text ++ afterWord (trimStart text) := by
  unfold Cutting.firstWord? at found
  split at found
  · exact absurd found (by simp)
  · obtain rfl := Option.some.inj found
    rw [List.nil_append, List.append_assoc, leadingWord_append_afterWord,
      leadingBlanks_append_trimStart]

/-- An option is read as it is cut out. -/
theorem option_eq :
    option (Buffer.ofBody body) = .ok (TagFields.option body) := by
  have first := nextWord_eq [] body.chars
  rw [List.nil_append, byteLength_nil] at first
  rw [option, TagFields.option, Buffer.chars_ofBody, first, ok_bind]
  cases found : Cutting.firstWord? [] body.chars with
  | none => rfl
  | some word =>
      have chars := append_of_firstWord? found
      have isOf : word.IsOf body.chars := ⟨_, chars⟩
      rw [Option.map_some]
      dsimp only
      rw [partBetween_ofCutting body isOf, ok_bind]
      by_cases bracket : word.text.head? = some '['
      · have bracketed := findBracketed_eq (List.nil_append body.chars).symm
        rw [byteLength_nil] at bracketed
        rw [if_pos bracket, if_pos bracket, bracketed]
        rfl
      · have onward := typesAndName_eq chars
        rw [byteLength_append] at onward
        rw [if_neg bracket, if_neg bracket, nameText_eq isOf, ok_bind,
          Stretch.ofCutting, onward]
        rfl

/-- Types without a name are read as they are cut out. -/
theorem typesOnly_eq :
    typesOnly (Buffer.ofBody body) = .ok (TagFields.typesOnly body) := by
  have bracketed := findBracketed_eq (List.nil_append body.chars).symm
  rw [byteLength_nil] at bracketed
  rw [typesOnly, TagFields.typesOnly, Buffer.chars_ofBody]
  cases found : TypeListCut.ofChars? body.chars with
  | none =>
      obtain ⟨word, split⟩ := splitTypeList_of_none found []
      rw [List.nil_append, byteLength_nil] at split
      rw [split, ok_bind]
      cases word <;>
        dsimp only <;>
        rw [bracketed] <;>
        rfl
  | some cut =>
      have split := splitTypeList_of_cut found []
      rw [List.nil_append, byteLength_nil] at split
      rw [split, ok_bind]
      have types := Buffer.textAt_ofBody (TypeListCut.chars_of_ofChars? found)
      obtain ⟨blanks, word, gap, inside, after⟩ := cut
      cases word with
      | cons c word =>
          simp only [stretch?, reduceCtorEq, if_false]
          rw [bracketed]
          rfl
      | nil =>
          simp only [TypeListCut.lead, List.append_nil] at types
          simp only [stretch?, if_true, TypeListCut.lead, List.nil_append,
            List.append_nil, Stretch.ofCutting]
          rw [types]
          rfl

/-- A tag is read from the text of its body without a fault. -/
theorem buildTag_eq
    (lineIndex : Nat)
    (directive : String) :
    buildTag lineIndex directive (Buffer.ofBody body) =
      .ok (Tag.ofBody lineIndex directive body) := by
  have whole := typesAndName_eq (List.nil_append body.chars).symm
  rw [byteLength_nil] at whole
  rw [buildTag, Tag.ofBody, Buffer.chars_ofBody]
  cases found : Cutting.reference? body.chars with
  | some word =>
      have areOf : ∀ cutting, word = some cutting →
          cutting.IsOf body.chars := by
        rintro cutting rfl
        exact Cutting.isOf_of_reference? found
      dsimp only
      rw [mapM_nameText areOf]
      rfl
  | none =>
      dsimp only
      cases TagKind.ofDirective directive with
      | param | yieldParam =>
          rw [whole]
          rfl
      | option =>
          rw [option_eq]
          rfl
      | returns | raise | yieldReturn =>
          rw [typesOnly_eq]
          rfl
      | reference | overload | other => rfl

end Tags

end Checked
end DocLint
