import ReversePolish.Evaluation

/-!
# The rules of evaluation

* `Operator.Makes` — the arithmetic of the operators, one rule for each: what an operator makes of
  its operands, the left one first.
* `Evaluates` — what becomes of a stack when a token is evaluated on it, one rule for each outcome.
  The rules do not say in what order anything is checked.
-/

namespace ReversePolish

/-- `op.Makes args x`: the operator makes `x` of the operands `args`, the last pushed of them being
the right one. -/
inductive Operator.Makes : Operator → List Float → Float → Prop where
  /-- `+` makes the sum. -/
  | sum (l r : Float) : Makes add [l, r] (l + r)
  /-- `-` makes the difference, the right operand being taken from the left one. -/
  | difference (l r : Float) : Makes subtract [l, r] (l - r)
  /-- `*` makes the product. -/
  | product (l r : Float) : Makes multiply [l, r] (l * r)
  /-- `/` makes the quotient, the left operand being divided by the right one. -/
  | quotient (l r : Float) : Makes divide [l, r] (l / r)
  /-- `sqrt` makes the square root of its one operand. -/
  | root (x : Float) : Makes squareRoot [x] x.sqrt
  /-- `^` makes the power, the left operand being raised to the right one. -/
  | power (l r : Float) : Makes power [l, r] (l.pow r)
  /-- `%` makes the remainder of the left operand by the right one. -/
  | remainder (l r : Float) : Makes modulo [l, r] (Binary64.remainder l r)

/-- `Evaluates t s o`: the evaluation of the token `t` on the stack `s` has the outcome `o`. -/
inductive Evaluates (t : String) (s : Stack) : Outcome → Prop where
  /-- A text that is no operator's token is refused on any stack, which stays as it is. -/
  | unknown (ht : ∀ op : Operator, op.token ≠ t) :
      Evaluates t s ⟨s, .rejected (.unknownOperator t)⟩
  /-- An operator is refused on a stack that holds fewer operands than it takes, and the stack stays
  as it is. -/
  | underflow (op : Operator) (ht : op.token = t) (hs : s.length < op.arity) :
      Evaluates t s ⟨s, .rejected (.stackUnderflow op op.arity s.length)⟩
  /-- Otherwise what the operator makes of the last operands takes their place. -/
  | applied (op : Operator) (base args : List Float) (x : Float) (ht : op.token = t)
      (hs : s = base ++ args) (hlen : args.length = op.arity) (hx : op.Makes args x) :
      Evaluates t s ⟨base ++ [x], .applied op args x⟩

end ReversePolish
