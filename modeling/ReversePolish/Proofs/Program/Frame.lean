import ReversePolish.Program.Basic

/-!
# What lies below the operands of a program

* `Report.onto` — a report whose stack stands on a base.
* **Frame** (`Program.Succeeds.run_onto`, `Program.Succeeds.final_onto`): where a program succeeds it
  succeeds on any base below, with the same replies, and no step reads or changes the base. One step
  is `Instruction.run_onto`, and for a call `Call.run_onto`.
-/

namespace ReversePolish

/-- The same report with the operands of `base` below the stack. -/
def Report.onto (base : Stack) (report : Report) : Report :=
  { report with stack := base ++ report.stack }

/-- A call that is carried out does not see what lies below the stack. -/
theorem Call.run_onto {c : Call} {top : Stack} (h : (c.run top).event.rejection? = none)
    (base : Stack) : c.run (base ++ top) = ⟨base ++ (c.run top).stack, (c.run top).event⟩ := by
  rcases c.run_cases top with
    ⟨_, -, hrun⟩ | ⟨_, -, -, hrun⟩ | ⟨op, rest, args, x, hc, rfl, hx, hrun⟩
  · rw [hrun] at h
    cases h
  · rw [hrun] at h
    cases h
  · rw [hrun, ← List.append_assoc, run_append (base ++ rest) hc hx, List.append_assoc]

/-- An instruction that is carried out does not see what lies below the stack. -/
theorem Instruction.run_onto {i : Instruction} {top : Stack}
    (h : (i.toStep.run top).rejection? = none) (base : Stack) :
    i.toStep.run (base ++ top) = (i.toStep.run top).onto base := by
  cases i with
  | operand x =>
      show Report.mk .pushed (base ++ top ++ [x]) = ⟨.pushed, base ++ (top ++ [x])⟩
      rw [List.append_assoc]
  | call c =>
      have hrun : c.run (base ++ top) = ⟨base ++ (c.run top).stack, (c.run top).event⟩ :=
        Call.run_onto h base
      show Report.mk (.called (c.run (base ++ top)).event) (c.run (base ++ top)).stack = _
      rw [hrun]
      rfl

namespace Program

/-- Where a program succeeds, a base below changes nothing in its reports but the stacks, all of
which have the base below. -/
theorem Succeeds.run_onto {p : Program} {top : Stack} (h : p.Succeeds top) (base : Stack) :
    p.run (base ++ top) = (p.run top).map (Report.onto base) := by
  induction p generalizing top with
  | nil => rfl
  | cons i rest ih =>
      obtain ⟨hi, hrest⟩ := succeeds_cons.mp h
      have hstep : i.toStep.run (base ++ top) = (i.toStep.run top).onto base :=
        Instruction.run_onto hi base
      rw [run_cons, run_cons, List.map_cons, hstep, ← ih hrest]
      rfl

/-- Where a program succeeds, a base below stays below. -/
theorem Succeeds.final_onto {p : Program} {top : Stack} (h : p.Succeeds top) (base : Stack) :
    p.final (base ++ top) = base ++ p.final top := by
  induction p generalizing top with
  | nil => rfl
  | cons i rest ih =>
      obtain ⟨hi, hrest⟩ := succeeds_cons.mp h
      have hstep : i.toStep.run (base ++ top) = (i.toStep.run top).onto base :=
        Instruction.run_onto hi base
      rw [final_cons, final_cons, hstep, ← ih hrest]
      rfl

end Program

end ReversePolish
