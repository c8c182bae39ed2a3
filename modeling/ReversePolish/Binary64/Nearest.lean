import ReversePolish.Binary64.Basic

/-!
# Rounding to the nearest binary64 number

* `roundHalfEven` — the whole number nearest to a ratio, the even one of two equally near.
* `nearestCode` — the code of the binary64 magnitude nearest to a ratio of units, a tie going to the
  even code. The ratio is measured in steps of `2 ^ e`, the spacing of the binary64 numbers around
  it, and rounded once. A result that fills the next binade needs no care, since codes are
  consecutive across binades; one beyond the finite magnitudes becomes infinity.
* `nearest` — the binary64 number of a sign and a ratio of units.
-/

namespace ReversePolish.Binary64

/-- The whole number nearest to `num / den`, the even one of two equally near. -/
def roundHalfEven (num den : Nat) : Nat :=
  let quotient := num / den
  let twice := 2 * (num % den)
  if twice < den then quotient
  else if den < twice then quotient + 1
  else quotient + quotient % 2

/-- The exponent `e` for which binary64 numbers around `m` units lie `2 ^ e` units apart. -/
def spacing (m : Nat) : Nat := m.log2 - 52

/-- The code of the binary64 magnitude nearest to `num / den` units, ties going to the even code;
the code of infinity when the ratio lies beyond the finite magnitudes. -/
def nearestCode (num den : Nat) : Nat :=
  let e := spacing (num / den)
  min (e * binade + roundHalfEven num (den <<< e)) infinityCode

/-- The binary64 number nearest to `num / den` units of `2 ^ -1074`, with the given sign. -/
def nearest (negative : Bool) (num den : Nat) : Float :=
  ofCode negative (nearestCode num den)

end ReversePolish.Binary64
