import ReversePolish.Operator.Basic
import ReversePolish.Binary64.Remainder

/-!
# The value of an operator on its operands

* `Operator.value?` — the result of an operator on a list of operands, leftmost first. **Totality**
  (`isSome_value?_iff`): there is a result iff the list has as many operands as the operator takes,
  whatever their values; division by zero and roots of negative numbers give infinities and `nan`.
-/

namespace ReversePolish.Operator

/-- The result of `op` on `operands`, given leftmost first; none when their number is not the arity
of `op`. -/
def value? : (op : Operator) → (operands : List Float) → Option Float
  | squareRoot, [x] => some x.sqrt
  | add, [l, r] => some (l + r)
  | subtract, [l, r] => some (l - r)
  | multiply, [l, r] => some (l * r)
  | divide, [l, r] => some (l / r)
  | power, [l, r] => some (l.pow r)
  | modulo, [l, r] => some (Binary64.remainder l r)
  | _, _ => none

/-- **Totality.** An operator has a result exactly on lists of as many operands as it takes. -/
theorem isSome_value?_iff {op : Operator} {operands : List Float} :
    (op.value? operands).isSome ↔ operands.length = op.arity := by
  rcases operands with _ | ⟨x, _ | ⟨y, _ | ⟨z, rest⟩⟩⟩ <;> cases op <;> simp [value?, arity]

/-- The operands that an operator has a result on are as many as it takes. -/
theorem length_of_value?_eq_some {op : Operator} {operands : List Float} {x : Float}
    (h : op.value? operands = some x) : operands.length = op.arity :=
  isSome_value?_iff.mp (by rw [h]; rfl)

/-- No operator has a result without operands. -/
theorem ne_nil_of_value?_eq_some {op : Operator} {operands : List Float} {x : Float}
    (h : op.value? operands = some x) : operands ≠ [] := by
  rintro rfl
  exact absurd (length_of_value?_eq_some h) (Nat.ne_of_lt op.arity_pos)

end ReversePolish.Operator
