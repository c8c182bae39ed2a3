import ReversePolish.Binary64.Nearest
import ReversePolish.Decimal.Grid

/-!
# The shortest decimal of a binary64 magnitude

A unit of `2 ^ -1074` is `5 ^ 1074` units of `10 ^ -1074`, so every finite binary64 magnitude is a
whole number of the latter, and reading a whole number of them back is a rounding of a ratio.

* `scaled` — a magnitude in units of `10 ^ -1074`.
* `readsBack` — whether a whole number of such units is rounded to a given magnitude.
* `shortest` — of the decimals with the fewest significant digits that are rounded to a magnitude,
  the nearest to it, and of two equally near the larger.
-/

namespace ReversePolish.Binary64

/-- The magnitude with the given code, in units of `10 ^ -1074`. -/
def scaled (code : Nat) : Nat := units code * Nat.pow 5 1074

/-- Whether `m` units of `10 ^ -1074` are rounded to the magnitude with the given code. -/
def readsBack (code m : Nat) : Bool := nearestCode m (Nat.pow 5 1074) == code

/-- The shortest decimal that is rounded to the magnitude with the given code, the nearest of
several and the larger of two equally near. The scan starts at the place of the leading digit: there
a neighbour has one digit, or is the next power of ten. -/
def shortest (code : Nat) : Decimal :=
  let m := scaled code
  let found := Decimal.coarsest (readsBack code) m ((Nat.toDigits 10 m).length - 1)
  Decimal.trim ⟨found.coefficient, found.exponent - 1074⟩

end ReversePolish.Binary64
