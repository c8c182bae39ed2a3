import ReversePolish.Session

/-!
# Programs: sessions of pushes and calls

* `Instruction`, `Program` — the steps that postfix notation is made of: operands and calls.
* `Program.run`, `Program.final` — a program run as a session on a stack.
* `Program.Succeeds` — no call of the program is rejected. **First instruction** (`succeeds_cons`,
  `succeeds_operand_cons`, `succeeds_call_cons`): what is left to show once it has been taken.
* `Program.pushing` — the program that puts given operands on the stack.
-/

namespace ReversePolish

/-- A step of postfix notation. -/
inductive Instruction where
  /-- An operand, to be pushed. -/
  | operand (x : Float)
  /-- A call for an operator. -/
  | call (call : Call)
  deriving DecidableEq, Repr

/-- The step of a session that an instruction is. -/
def Instruction.toStep : Instruction → Step
  | operand x => .push x
  | call c => .call c

/-- Operands and calls in the order of postfix notation. -/
abbrev Program := List Instruction

namespace Program

/-- The steps of a session that a program is. -/
def steps (p : Program) : List Step := p.map Instruction.toStep

/-- What is told of each instruction when the program is run on `s`. -/
def run (s : Stack) (p : Program) : List Report := Session.run s p.steps

/-- The stack that the program leaves when it is run on `s`. -/
def final (s : Stack) (p : Program) : Stack := Session.final s p.steps

/-- No call is rejected when the program is run on `s`. -/
def Succeeds (s : Stack) (p : Program) : Prop :=
  ∀ report ∈ p.run s, report.rejection? = none

instance (s : Stack) (p : Program) : Decidable (p.Succeeds s) :=
  inferInstanceAs (Decidable (∀ report ∈ p.run s, report.rejection? = none))

@[simp] theorem succeeds_nil (s : Stack) : Succeeds s [] := by
  intro report hreport
  cases hreport

/-- A program succeeds when its first instruction does and the others do on the stack it leaves. -/
theorem succeeds_cons {s : Stack} {i : Instruction} {rest : Program} :
    Succeeds s (i :: rest) ↔
      (i.toStep.run s).rejection? = none ∧ Succeeds (i.toStep.run s).stack rest :=
  List.forall_mem_cons

/-- A program that starts with an operand succeeds when the rest does with the operand on top. -/
theorem succeeds_operand_cons {s : Stack} {x : Float} {rest : Program} :
    Succeeds s (.operand x :: rest) ↔ Succeeds (s ++ [x]) rest :=
  succeeds_cons.trans (and_iff_right rfl)

/-- A program that starts with a call of a known value succeeds when the rest does on that value. -/
theorem succeeds_call_cons {c : Call} {op : Operator} {args : List Float} {x : Float}
    {rest : Program} (base : Stack) (hc : c.resolve = .ok op) (hx : op.value? args = some x) :
    Succeeds (base ++ args) (.call c :: rest) ↔ Succeeds (base ++ [x]) rest := by
  rw [succeeds_cons, Instruction.toStep, Step.run, Call.run_append base hc hx]
  exact and_iff_right rfl

/-- A program that starts with a rejected call does not succeed. -/
theorem not_succeeds_call_cons {c : Call} {s : Stack} {rest : Program} {reason : Rejection}
    (h : c.run s = ⟨s, .rejected reason⟩) : ¬ Succeeds s (.call c :: rest) := by
  rw [succeeds_cons, Instruction.toStep, Step.run, h]
  rintro ⟨hok, -⟩
  cases hok

@[simp] theorem run_nil (s : Stack) : run s [] = [] := rfl

@[simp] theorem run_cons (s : Stack) (i : Instruction) (rest : Program) :
    run s (i :: rest) = i.toStep.run s :: run (i.toStep.run s).stack rest := rfl

@[simp] theorem final_nil (s : Stack) : final s [] = s := rfl

@[simp] theorem final_cons (s : Stack) (i : Instruction) (rest : Program) :
    final s (i :: rest) = final (i.toStep.run s).stack rest := rfl

/-- After a call of a known value, the rest of a program runs on that value. -/
theorem final_call_cons {c : Call} {op : Operator} {args : List Float} {x : Float}
    {rest : Program} (base : Stack) (hc : c.resolve = .ok op) (hx : op.value? args = some x) :
    final (base ++ args) (.call c :: rest) = final (base ++ [x]) rest := by
  rw [final_cons, Instruction.toStep, Step.run, Call.run_append base hc hx]

/-- The program that pushes `operands`, the last of them last. -/
def pushing (operands : List Float) : Program := operands.map .operand

end Program

end ReversePolish
