/-!
# Decimal numbers

* `Decimal` — a whole coefficient times a power of ten.
* `trim` — the same number with the zeros at the end of its coefficient moved into the exponent.
  **Normal form** (`trim_coefficient_mod_ten`): what remains has no zero at its end, so its digits
  are the significant digits of the number.
* `precision` — how many significant digits the number has.
-/

namespace ReversePolish

/-- The number `coefficient * 10 ^ exponent`. -/
structure Decimal where
  /-- The digits of the number, read as a whole number. -/
  coefficient : Nat
  /-- The power of ten of the last digit. -/
  exponent : Int
  deriving DecidableEq, Repr

namespace Decimal

/-- The number `d` stands for. -/
def toRat (d : Decimal) : Rat := d.coefficient * 10 ^ d.exponent

/-- The same number without zeros at the end of the coefficient; zero gets the exponent zero. -/
def trim (d : Decimal) : Decimal :=
  if h : d.coefficient = 0 then ⟨0, 0⟩
  else if d.coefficient % 10 = 0 then trim ⟨d.coefficient / 10, d.exponent + 1⟩
  else d
termination_by d.coefficient
decreasing_by omega

/-- **Normal form.** A trimmed coefficient other than zero does not end in a zero. -/
theorem trim_coefficient_mod_ten (d : Decimal) (h : 0 < d.coefficient) :
    d.trim.coefficient % 10 ≠ 0 := by
  fun_induction trim d with
  | case1 d hd => omega
  | case2 d hd hz ih => exact ih (by simp only; omega)
  | case3 d hd hz => exact hz

/-- The number of significant digits of `d`; zero has one. -/
def precision (d : Decimal) : Nat := (Nat.toDigits 10 d.trim.coefficient).length

end Decimal

end ReversePolish
