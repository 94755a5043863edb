/-!
# Sets of code points

A set of code points is a list of inclusive ranges.  Membership is a plain
search, so that what a table holds can be read off its ranges.
-/

namespace DocLint
namespace Text

/-- A set of code points, given by inclusive ranges. -/
structure CodePoints where
  ranges : List (Nat × Nat)

namespace CodePoints

/-- Whether some range of the set covers the character. -/
def contains (set : CodePoints) (c : Char) : Bool :=
  set.ranges.any fun range =>
    decide (range.1 ≤ c.toNat) && decide (c.toNat ≤ range.2)

end CodePoints
end Text
end DocLint
