/-!
Sets of characters given by ranges of code points. A range holds both of its ends; a character is
in the set when its code point is in one of the ranges.
-/
namespace InlineCompletion.Text

/-- A set of characters, as ranges of code points with both ends included. -/
abbrev CodePoints := List (Nat × Nat)

/-- Membership in a set of ranges. -/
def CodePoints.contains (ranges : CodePoints) (c : Char) : Bool :=
  ranges.any fun range => decide (range.1 ≤ c.toNat) && decide (c.toNat ≤ range.2)

end InlineCompletion.Text
