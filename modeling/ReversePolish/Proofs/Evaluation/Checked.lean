import ReversePolish.Evaluation.Checked

/-!
# Evaluation never runs into a fault

* **Cut** (`exists_cutAt?_of_arity_le`): on a stack that holds as many operands as the operator takes,
  these can be counted off from the top, and the stack is cut right below them.
* **Steps** (`applyChecked_eq`): applying an operator step by step comes to what applying it as a whole
  does, on any stack.
* **Faults** (`apply_never_faults`): the number of operands that an operator takes and the lists on
  which it has a value agree, so no step fails, whatever the operands are.
-/

namespace ReversePolish.Operator

variable {op : Operator} {s : Stack}

/-- **Cut.** On a stack that is deep enough the operands are counted off and cut off, and the operator
has a value on them. -/
theorem exists_cutAt?_of_arity_le (h : op.arity ≤ s.length) :
    ∃ place base args x, Nat.psub s.length op.arity = some place ∧ place ≤ s.length ∧
      s.cutAt? place = some (base, args) ∧ s = base ++ args ∧ args.length = op.arity ∧
      op.value? args = some x := by
  obtain ⟨base, args, x, rfl, hx⟩ := exists_value?_of_arity_le h
  have hargs : args.length = op.arity := length_of_value?_eq_some hx
  have hdepth : base.length + op.arity = (base ++ args).length := by
    rw [List.length_append, hargs]
  have hcut : Stack.cutAt? (base ++ args) base.length = some (base, args) :=
    Stack.cutAt?_eq_some_iff.mpr ⟨rfl, rfl⟩
  exact ⟨base.length, base, args, x, Nat.psub_eq_some.mpr hdepth, by omega, hcut, rfl, hargs, hx⟩

/-- **Steps.** Applied step by step, an operator does what it does as a whole. -/
theorem applyChecked_eq (op : Operator) (s : Stack) : op.applyChecked s = .ok (op.applyTo s) := by
  unfold applyChecked
  by_cases hlen : s.length < op.arity
  · rw [if_pos hlen, applyTo_of_length_lt hlen]
  · obtain ⟨place, base, args, x, hplace, -, hcut, hs, -, hx⟩ :=
      exists_cutAt?_of_arity_le (Nat.le_of_not_lt hlen)
    have happly : op.applyTo s = ⟨base ++ [x], .applied op args x⟩ := by
      rw [hs]
      exact applyTo_append base hx
    simp only [if_neg hlen, hplace, hcut, hx, happly]

/-- **Faults.** An operator has a value on a list of operands iff the list has as many as it takes.
On a stack with at least so many operands there is a number of others, the stack can be cut above
these, the part cut off is the last operands in their order, and the operator has a value on them. So
an operator that is applied step by step runs into no fault on any stack. -/
theorem apply_never_faults :
    (∀ (op : Operator) (operands : List Float),
      (op.value? operands).isSome ↔ operands.length = op.arity) ∧
    (∀ (op : Operator) (s : Stack), op.arity ≤ s.length →
      ∃ place base args x, Nat.psub s.length op.arity = some place ∧ place ≤ s.length ∧
        s.cutAt? place = some (base, args) ∧ s = base ++ args ∧ args.length = op.arity ∧
        op.value? args = some x) ∧
    ∀ (op : Operator) (s : Stack), op.applyChecked s = .ok (op.applyTo s) :=
  ⟨fun _ _ => isSome_value?_iff, fun _ _ h => exists_cutAt?_of_arity_le h, applyChecked_eq⟩

/-- The root of a negative number is applied without a fault, to that number alone. -/
theorem apply_never_faults_root_of_negative :
    squareRoot.arity ≤ ([5, -4] : Stack).length ∧
      ∃ x, squareRoot.value? [-4] = some x ∧
        squareRoot.applyChecked [5, -4] = .ok ⟨[5, x], .applied squareRoot [-4] x⟩ := by
  obtain ⟨-, hcuts, hsteps⟩ := apply_never_faults
  have hdeep : squareRoot.arity ≤ ([5, -4] : Stack).length := by decide
  obtain ⟨place, base, args, x, hplace, -, hcut, -, -, hx⟩ := hcuts squareRoot [5, -4] hdeep
  obtain rfl : 1 = place := Option.some.inj hplace
  obtain ⟨rfl, rfl⟩ : [5] = base ∧ [-4] = args := Prod.mk.inj (Option.some.inj hcut)
  refine ⟨hdeep, x, hx, ?_⟩
  rw [hsteps]
  exact congrArg Except.ok (applyTo_append [5] hx)

end ReversePolish.Operator
