/-!
# What is left after reading

A reader that consumes at least one item of its input returns what is left as a
shorter list.  The bound on the length is what lets readers call themselves on
the rest.
-/

namespace DocLint

/-- What is left of a list after reading at least one of its items. -/
abbrev Rest {α : Type} (items : List α) :=
  { rest : List α // rest.length < items.length }

namespace Rest

variable {α : Type} {first : α} {items : List α}

/-- What is left after one item. -/
def tail : Rest (first :: items) :=
  ⟨items, Nat.lt_succ_self items.length⟩

/-- What is left when one more item was read before. -/
def behind (rest : Rest items) : Rest (first :: items) :=
  ⟨rest.1, Nat.lt_succ_of_lt rest.2⟩

/-- What is left when a part was left before. -/
def after
    {part : List α}
    (shorter : part.length < items.length)
    (rest : Rest part) :
    Rest items :=
  ⟨rest.1, Nat.lt_trans rest.2 shorter⟩

end Rest

end DocLint
