/-!
# Sets of characters given by ranges

* `Text.covers` — whether a character lies in one of a list of ranges of code points, both ends
  included.
-/

namespace ReversePolish.Text

/-- Whether the code point of `c` lies in one of the ranges. -/
def covers (ranges : List (Nat × Nat)) (c : Char) : Bool :=
  ranges.any fun r => r.1 ≤ c.toNat && c.toNat ≤ r.2

end ReversePolish.Text
