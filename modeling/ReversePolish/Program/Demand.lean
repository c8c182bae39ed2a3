import ReversePolish.Program.Basic

/-!
# The demand of a program

* `Program.demandFrom` — how far below the start of the program its calls reach, as a maximum over
  them: a call reaches its arity down from the depth gained by the instructions before it.
* `Program.demand` — the number of operands that have to be on the stack before the program starts.
-/

namespace ReversePolish

namespace Program

/-- The greatest reach of the calls of a program below its start, the depth having grown by `gain`
before it; zero at least. A call whose token is no operator's reaches nothing and changes nothing. -/
def demandFrom (gain : Int) : Program → Int
  | [] => 0
  | .operand _ :: rest => demandFrom (gain + 1) rest
  | .call c :: rest =>
    match c.resolve with
    | .ok op => max (op.arity - gain) (demandFrom (gain + (1 - op.arity)) rest)
    | .error _ => demandFrom gain rest

/-- The number of operands that the program needs on the stack it is run on. -/
def demand (p : Program) : Nat := (demandFrom 0 p).toNat

/-- Every call of the program is for an operator. -/
def Resolves (p : Program) : Prop :=
  ∀ c, Instruction.call c ∈ p → ∃ op, c.resolve = .ok op

end Program

end ReversePolish
