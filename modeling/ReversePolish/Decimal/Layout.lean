import ReversePolish.Decimal.Basic

/-!
# Two layouts of a decimal number

* `pointed` — the digits of a whole number with a point before the last few of them.
* `positional` — a decimal written out, zeros filling the places between its digits and the point.
* `scientific` — a decimal as its digits, a point after the first, and a power of ten.

Texts are lists of characters, and numbers are written in base ten throughout.
-/

namespace ReversePolish.Decimal

/-- The digits of `n` with a point before the last `places`; no point when `places` is zero. -/
def pointed (n places : Nat) : List Char :=
  Nat.toDigits 10 (n / Nat.pow 10 places) ++
    if places = 0 then [] else '.' :: (Nat.toDigits 10 (n % Nat.pow 10 places)).leftpad places '0'

/-- The digits of a whole number, with a minus sign in front of a negative one. -/
def signed : Int → List Char
  | .ofNat n => Nat.toDigits 10 n
  | .negSucc n => '-' :: Nat.toDigits 10 (n + 1)

/-- The number written out in full. -/
def positional (d : Decimal) : List Char :=
  if 0 ≤ d.exponent then pointed (d.coefficient * Nat.pow 10 d.exponent.toNat) 0
  else pointed d.coefficient (-d.exponent).toNat

/-- The number as a leading digit, the digits after it behind a point, and a power of ten. -/
def scientific (d : Decimal) : List Char :=
  let places := (Nat.toDigits 10 d.coefficient).length - 1
  pointed d.coefficient places ++ 'e' :: signed (d.exponent + places)

end ReversePolish.Decimal
