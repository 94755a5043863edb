import DocLint.Proofs.CorrectedTypes
import Mathlib.Data.List.Forall2

/-!
# What a correction changes

The nodes of a type expression are the expression itself and the nodes of its
parts, from the outside in and from left to right.  A correction keeps this
order: the nodes of the corrected expression are the corrected nodes, although a
pair moves from one list of arguments to the keys and the values of a hash.
Only nodes with a reserved name on the wrong brackets change, and these are the
mismatches.
-/

namespace DocLint
namespace TypeExpr

/-! ## Nodes -/

mutual

/-- The nodes of a type expression, itself first. -/
def nodes : TypeExpr → List TypeExpr
  | simple name => [simple name]
  | generic name arguments => generic name arguments :: nodesOfList arguments
  | tuple name elements => tuple name elements :: nodesOfList elements
  | mapping name keys values =>
      mapping name keys values :: (nodesOfList keys ++ nodesOfList values)

/-- The nodes of a list of type expressions. -/
def nodesOfList : List TypeExpr → List TypeExpr
  | [] => []
  | type :: rest => nodes type ++ nodesOfList rest

end

theorem nodesOfList_eq (types : List TypeExpr) :
    nodesOfList types = types.flatMap nodes := by
  induction types with
  | nil => rfl
  | cons type rest hypothesis =>
      rw [nodesOfList, hypothesis, List.flatMap_cons]

/-- Below the root stand the nodes of the children. -/
theorem nodes_eq (type : TypeExpr) :
    type.nodes = type :: type.children.flatMap nodes := by
  cases type with
  | simple name => rfl
  | generic name arguments => rw [nodes, nodesOfList_eq, children]
  | tuple name elements => rw [nodes, nodesOfList_eq, children]
  | mapping name keys values =>
      rw [nodes, nodesOfList_eq, nodesOfList_eq, children, List.flatMap_append]

mutual

/-- What holds of an expression when it holds of its children holds of every
expression. -/
theorem induction_on_children
    {motive : TypeExpr → Prop}
    (step : ∀ type, (∀ child ∈ type.children, motive child) → motive type) :
    (type : TypeExpr) →
    motive type
  | simple _ => step _ (by simp [children])
  | generic _ arguments => step _ (induction_on_list step arguments)
  | tuple _ elements => step _ (induction_on_list step elements)
  | mapping _ keys values => by
      apply step
      intro child member
      rcases List.mem_append.mp member with isKey | isValue
      · exact induction_on_list step keys child isKey
      · exact induction_on_list step values child isValue

theorem induction_on_list
    {motive : TypeExpr → Prop}
    (step : ∀ type, (∀ child ∈ type.children, motive child) → motive type) :
    (types : List TypeExpr) →
    ∀ type ∈ types, motive type
  | [] => by simp
  | first :: rest =>
      List.forall_mem_cons.mpr
        ⟨induction_on_children step first, induction_on_list step rest⟩

end

/-- A function that acts on the children of an expression separately acts on its
nodes separately. -/
theorem nodes_of_children
    {change : TypeExpr → TypeExpr}
    (commutes : ∀ type, (change type).children = type.children.map change)
    (type : TypeExpr) :
    (change type).nodes = type.nodes.map change := by
  induction type using induction_on_children with
  | step type hypothesis =>
      rw [nodes_eq, commutes, nodes_eq type, List.map_cons, List.flatMap_map,
        List.map_flatMap]
      congr 1
      exact List.flatMap_congr hypothesis

/-! ## Misnamed nodes -/

/-- A reserved name on the wrong brackets: `Array` on braces, or `Hash` on
parentheses or angle brackets. -/
def IsMisnamed (node : TypeExpr) : Prop :=
  (node.name = arrayName ∧ node.shape = .mapping) ∨
    (node.name = hashName ∧ (node.shape = .tuple ∨ node.shape = .generic))

instance (node : TypeExpr) : Decidable node.IsMisnamed :=
  inferInstanceAs (Decidable (_ ∨ _))

@[simp]
theorem not_isMisnamed_simple (text : String) :
    ¬ (simple text).IsMisnamed := by
  simp [IsMisnamed, shape]

@[simp]
theorem isMisnamed_generic_iff {text : String} {arguments : List TypeExpr} :
    (generic text arguments).IsMisnamed ↔ text = hashName := by
  simp [IsMisnamed, name, shape]

@[simp]
theorem isMisnamed_tuple_iff {text : String} {elements : List TypeExpr} :
    (tuple text elements).IsMisnamed ↔ text = hashName := by
  simp [IsMisnamed, name, shape]

@[simp]
theorem isMisnamed_mapping_iff {text : String} {keys values : List TypeExpr} :
    (mapping text keys values).IsMisnamed ↔ text = arrayName := by
  simp [IsMisnamed, name, shape]

theorem mismatch?_eq_none_iff
    {node : TypeExpr} :
    node.mismatch? = none ↔ ¬ node.IsMisnamed := by
  cases node <;> simp [mismatch?]

theorem ownMismatch_of_not_isMisnamed
    {node : TypeExpr}
    (wellNamed : ¬ node.IsMisnamed) :
    node.ownMismatch = [] := by
  rw [ownMismatch, mismatch?_eq_none_iff.mpr wellNamed]
  rfl

theorem exists_ownMismatch
    {node : TypeExpr}
    (misnamed : node.IsMisnamed) :
    ∃ mismatch, node.ownMismatch = [(mismatch, node)] := by
  obtain ⟨mismatch, found⟩ := Option.ne_none_iff_exists'.mp
    (mt mismatch?_eq_none_iff.mp (not_not_intro misnamed))
  rw [ownMismatch, found]
  exact ⟨mismatch, rfl⟩

theorem mismatchesOfList_eq (types : List TypeExpr) :
    mismatchesOfList types = types.flatMap mismatches := by
  induction types with
  | nil => rfl
  | cons type rest hypothesis =>
      rw [mismatchesOfList, hypothesis, List.flatMap_cons]

theorem mismatches_eq_children (type : TypeExpr) :
    type.mismatches =
      type.ownMismatch ++ type.children.flatMap mismatches := by
  cases type with
  | simple name => simp [mismatches, children]
  | generic name arguments => rw [mismatches, mismatchesOfList_eq, children]
  | tuple name elements => rw [mismatches, mismatchesOfList_eq, children]
  | mapping name keys values =>
      rw [mismatches, mismatchesOfList_eq, mismatchesOfList_eq, children,
        List.flatMap_append]

/-- Mismatches are listed node by node. -/
theorem mismatches_eq (type : TypeExpr) :
    type.mismatches = type.nodes.flatMap ownMismatch := by
  induction type using induction_on_children with
  | step type hypothesis =>
      rw [mismatches_eq_children, nodes_eq, List.flatMap_cons,
        List.flatMap_assoc]
      congr 1
      exact List.flatMap_congr hypothesis

/-- The mismatches that are listed are the misnamed nodes as they are
written. -/
theorem map_snd_mismatches (type : TypeExpr) :
    type.mismatches.map Prod.snd =
      type.nodes.filter fun node => node.IsMisnamed := by
  rw [mismatches_eq]
  induction type.nodes with
  | nil => rfl
  | cons node rest hypothesis =>
      rw [List.flatMap_cons, List.map_append, hypothesis, List.filter_cons]
      by_cases misnamed : node.IsMisnamed
      · obtain ⟨mismatch, own⟩ := exists_ownMismatch misnamed
        simp [own, misnamed]
      · simp [ownMismatch_of_not_isMisnamed misnamed, misnamed]

/-! ## The correction node by node -/

theorem correctAll_eq (types : List TypeExpr) :
    correctAll types = types.map correct := by
  induction types with
  | nil => rfl
  | cons type rest hypothesis =>
      rw [correctAll_cons, hypothesis, List.map_cons]

/-- The children of the correction are the corrected children in their order. -/
theorem children_correct (type : TypeExpr) :
    type.correct.children = type.children.map correct := by
  cases type with
  | simple name => rfl
  | generic name arguments =>
      rw [correct_generic, correctAll_eq]
      rcases correctRoot_generic_cases name (arguments.map correct) with
        ⟨_, kept⟩ | ⟨key, value, pair, mapped⟩ | renamed
      · rw [kept, children, children]
      · rw [mapped, children, children, pair, List.singleton_append]
      · rw [renamed, children, children]
  | tuple name elements =>
      rw [correct_tuple, correctAll_eq]
      rcases correctRoot_tuple_cases name (elements.map correct) with
        ⟨_, kept⟩ | ⟨key, value, pair, mapped⟩ | renamed
      · rw [kept, children, children]
      · rw [mapped, children, children, pair, List.singleton_append]
      · rw [renamed, children, children]
  | mapping name keys values =>
      rw [correct_mapping, correctAll_eq, correctAll_eq]
      rcases correctRoot_mapping_cases name (keys.map correct)
        (values.map correct) with ⟨_, kept⟩ | renamed
      · rw [kept, children, children, List.map_append]
      · rw [renamed, children, children, List.map_append]

/-- What a misnamed node becomes.  Braces, and a pair between other brackets,
become a hash; the first of a pair is its key, the second its value.  Anything
else keeps its brackets and becomes an array. -/
inductive BecomesOnCorrection : TypeExpr → TypeExpr → Prop
  | braces (keys values : List TypeExpr) :
      BecomesOnCorrection (mapping arrayName keys values)
        (mapping hashName (keys.map correct) (values.map correct))
  | pairInAngles (key value : TypeExpr) :
      BecomesOnCorrection (generic hashName [key, value])
        (mapping hashName [key.correct] [value.correct])
  | pairInParens (key value : TypeExpr) :
      BecomesOnCorrection (tuple hashName [key, value])
        (mapping hashName [key.correct] [value.correct])
  | angles {arguments : List TypeExpr} :
      arguments.length ≠ 2 →
      BecomesOnCorrection (generic hashName arguments)
        (generic arrayName (arguments.map correct))
  | parens {elements : List TypeExpr} :
      elements.length ≠ 2 →
      BecomesOnCorrection (tuple hashName elements)
        (tuple arrayName (elements.map correct))

theorem correctRoot_angles
    {arguments : List TypeExpr}
    (notPair : arguments.length ≠ 2) :
    (generic hashName arguments).correctRoot = generic arrayName arguments := by
  rcases arguments with _ | ⟨first, _ | ⟨second, _ | ⟨third, rest⟩⟩⟩
  · rfl
  · rfl
  · exact absurd rfl notPair
  · rfl

theorem correctRoot_parens
    {elements : List TypeExpr}
    (notPair : elements.length ≠ 2) :
    (tuple hashName elements).correctRoot = tuple arrayName elements := by
  rcases elements with _ | ⟨first, _ | ⟨second, _ | ⟨third, rest⟩⟩⟩
  · rfl
  · rfl
  · exact absurd rfl notPair
  · rfl

theorem becomes_correct
    {node : TypeExpr}
    (misnamed : node.IsMisnamed) :
    BecomesOnCorrection node node.correct := by
  cases node with
  | simple text => exact absurd misnamed (not_isMisnamed_simple text)
  | generic text arguments =>
      obtain rfl := isMisnamed_generic_iff.mp misnamed
      rw [correct_generic, correctAll_eq]
      by_cases pair : arguments.length = 2
      · obtain ⟨key, value, rfl⟩ := List.length_eq_two.mp pair
        exact .pairInAngles key value
      · rw [correctRoot_angles (by rwa [List.length_map])]
        exact .angles pair
  | tuple text elements =>
      obtain rfl := isMisnamed_tuple_iff.mp misnamed
      rw [correct_tuple, correctAll_eq]
      by_cases pair : elements.length = 2
      · obtain ⟨key, value, rfl⟩ := List.length_eq_two.mp pair
        exact .pairInParens key value
      · rw [correctRoot_parens (by rwa [List.length_map])]
        exact .parens pair
  | mapping text keys values =>
      obtain rfl := isMisnamed_mapping_iff.mp misnamed
      have corrected : (mapping arrayName keys values).correct =
          mapping hashName (keys.map correct) (values.map correct) := by
        rw [correct_mapping, correctAll_eq, correctAll_eq]
        rfl
      rw [corrected]
      exact .braces keys values

/-- A node that is not misnamed keeps its name and its brackets. -/
theorem correct_of_not_isMisnamed
    {node : TypeExpr}
    (wellNamed : ¬ node.IsMisnamed) :
    node.correct.name = node.name ∧ node.correct.shape = node.shape := by
  cases node with
  | simple name => exact ⟨rfl, rfl⟩
  | generic name arguments =>
      have kept : (generic name (correctAll arguments)).mismatch? = none :=
        mismatch?_eq_none_iff.mpr wellNamed
      rw [correct_generic, correctRoot_of_none kept]
      exact ⟨rfl, rfl⟩
  | tuple name elements =>
      have kept : (tuple name (correctAll elements)).mismatch? = none :=
        mismatch?_eq_none_iff.mpr wellNamed
      rw [correct_tuple, correctRoot_of_none kept]
      exact ⟨rfl, rfl⟩
  | mapping name keys values =>
      have kept : (mapping name (correctAll keys)
          (correctAll values)).mismatch? = none :=
        mismatch?_eq_none_iff.mpr wellNamed
      rw [correct_mapping, correctRoot_of_none kept]
      exact ⟨rfl, rfl⟩

theorem BecomesOnCorrection.differs
    {node corrected : TypeExpr}
    (becomes : BecomesOnCorrection node corrected) :
    corrected.name ≠ node.name ∨ corrected.shape ≠ node.shape := by
  cases becomes with
  | braces => exact Or.inl arrayName_ne_hashName.symm
  | pairInAngles => exact Or.inr (by simp [shape])
  | pairInParens => exact Or.inr (by simp [shape])
  | angles => exact Or.inl arrayName_ne_hashName
  | parens => exact Or.inl arrayName_ne_hashName

/-- How a node of an expression and the node of its correction at the same
position are related. -/
structure Corresponds (node corrected : TypeExpr) : Prop where
  children : corrected.children.length = node.children.length
  differs_iff : corrected.name ≠ node.name ∨ corrected.shape ≠ node.shape ↔
    node.IsMisnamed
  becomes : node.IsMisnamed → BecomesOnCorrection node corrected

theorem corresponds_correct (node : TypeExpr) :
    Corresponds node node.correct := by
  refine ⟨?_, ⟨fun differs => ?_, fun misnamed => ?_⟩, becomes_correct⟩
  · rw [children_correct, List.length_map]
  · by_contra wellNamed
    obtain ⟨sameName, sameShape⟩ := correct_of_not_isMisnamed wellNamed
    rcases differs with differs | differs
    · exact differs sameName
    · exact differs sameShape
  · exact (becomes_correct misnamed).differs

/-- A correction touches the reported nodes only.  An expression and its
correction have as many nodes, and at each position nodes with as many children;
the two differ in name or brackets exactly if the node of the expression is
misnamed, and then it becomes what its brackets and the number of its children
decide.  The mismatches of the expression are its misnamed nodes, in their order
and as they are written. -/
theorem correct_corresponds (type : TypeExpr) :
    type.correct.nodes.length = type.nodes.length ∧
      List.Forall₂ Corresponds type.nodes type.correct.nodes ∧
      type.mismatches.map Prod.snd =
        type.nodes.filter fun node => node.IsMisnamed := by
  have corrected : type.correct.nodes = type.nodes.map correct :=
    nodes_of_children children_correct type
  refine ⟨?_, ?_, map_snd_mismatches type⟩
  · rw [corrected, List.length_map]
  · rw [corrected, List.forall₂_map_right_iff, List.forall₂_same]
    exact fun node _ => corresponds_correct node

end TypeExpr
end DocLint
