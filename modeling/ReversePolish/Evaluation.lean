import ReversePolish.Call
import ReversePolish.Event
import ReversePolish.Operator.Value

/-!
# Evaluation: calls on a stack of operands

* `Stack` — the operands that wait for an operator, the last one pushed at the end.
* `Operator.applyTo` — takes the last operands, as many as the operator takes, and leaves its result
  in their place. The depth is checked first, so a call that is rejected takes nothing.
* `Call.run` — resolves a call and applies its operator. An unknown token is reported on any stack,
  however shallow.
* **Inversion** (`Call.run_cases`): a call is refused for its token, refused for want of operands, or
  puts a value in the place of the last operands. It does nothing else.
-/

namespace ReversePolish

/-- Operands in the order in which they were pushed, the top of the stack last. -/
abbrev Stack := List Float

/-- A call's effect: the stack it leaves and the event that tells what it did. -/
structure Outcome where
  /-- The stack after the call. -/
  stack : Stack
  /-- What the call did. -/
  event : Event
  deriving DecidableEq, Repr

/-- Applies `op` to the last operands of `s`; the rightmost operand is the last one pushed. -/
def Operator.applyTo (op : Operator) (s : Stack) : Outcome :=
  if h : op.arity ≤ s.length then
    let operands := s.drop (s.length - op.arity)
    let result := (op.value? operands).get <|
      isSome_value?_iff.mpr <| by rw [List.length_drop]; omega
    ⟨s.take (s.length - op.arity) ++ [result], .applied op operands result⟩
  else ⟨s, .rejected (.stackUnderflow op op.arity s.length)⟩

/-- Resolves the call and applies its operator to `s`. -/
def Call.run (call : Call) (s : Stack) : Outcome :=
  match call.resolve with
  | .ok op => op.applyTo s
  | .error reason => ⟨s, .rejected reason⟩

/-! ### The three cases -/

/-- With enough operands on the stack, the operator's value takes their place. -/
theorem Operator.applyTo_append {op : Operator} {args : List Float} {x : Float}
    (base : Stack) (h : op.value? args = some x) :
    op.applyTo (base ++ args) = ⟨base ++ [x], .applied op args x⟩ := by
  have hlen : args.length = op.arity := length_of_value?_eq_some h
  simp [applyTo, ← hlen, h]

/-- With too few operands on the stack, it stays as it is. -/
theorem Operator.applyTo_of_length_lt {op : Operator} {s : Stack} (h : s.length < op.arity) :
    op.applyTo s = ⟨s, .rejected (.stackUnderflow op op.arity s.length)⟩ := by
  simp [applyTo, h]

/-- A token that is no operator's leaves the stack as it is. -/
theorem Call.run_of_unknown {text : String} (h : ∀ op : Operator, op.token ≠ text) (s : Stack) :
    (token text).run s = ⟨s, .rejected (.unknownOperator text)⟩ := by
  simp [run, resolve, Operator.parse_eq_error_iff.mpr ⟨rfl, h⟩]

/-- A call for an operator by its token is one for the operator itself. -/
theorem Call.run_token (op : Operator) (s : Stack) :
    (token op.token).run s = op.applyTo s := by
  simp [run]

/-- A call that comes to no operator leaves the stack as it is. -/
theorem Call.run_of_error {c : Call} {reason : Rejection} (h : c.resolve = .error reason)
    (s : Stack) : c.run s = ⟨s, .rejected reason⟩ := by
  simp only [run, h]

/-- A call for an operator on too short a stack leaves the stack as it is. -/
theorem Call.run_of_length_lt {c : Call} {op : Operator} {s : Stack} (h : c.resolve = .ok op)
    (hlen : s.length < op.arity) :
    c.run s = ⟨s, .rejected (.stackUnderflow op op.arity s.length)⟩ := by
  simp only [run, h]
  exact op.applyTo_of_length_lt hlen

/-- A call for an operator puts its value in the place of its operands, whatever lies below. -/
theorem Call.run_append {c : Call} {op : Operator} {args : List Float} {x : Float}
    (base : Stack) (h : c.resolve = .ok op) (hx : op.value? args = some x) :
    c.run (base ++ args) = ⟨base ++ [x], .applied op args x⟩ := by
  simp only [run, h]
  exact op.applyTo_append base hx

/-- A stack that is deep enough ends in operands on which the operator has a value. -/
theorem Operator.exists_value?_of_arity_le {op : Operator} {s : Stack}
    (h : op.arity ≤ s.length) :
    ∃ base args x, s = base ++ args ∧ op.value? args = some x := by
  obtain ⟨base, args, rfl, hargs⟩ := exists_append_of_arity_le h
  obtain ⟨x, hx⟩ := Option.isSome_iff_exists.mp (isSome_value?_iff.mpr hargs)
  exact ⟨base, args, x, rfl, hx⟩

/-- **Inversion.** A call is refused for its token, refused for want of operands, or puts a value in
the place of the last operands. -/
theorem Call.run_cases (c : Call) (s : Stack) :
    (∃ reason, c.resolve = .error reason ∧ c.run s = ⟨s, .rejected reason⟩) ∨
    (∃ op, c.resolve = .ok op ∧ s.length < op.arity ∧
      c.run s = ⟨s, .rejected (.stackUnderflow op op.arity s.length)⟩) ∨
    ∃ op base args x, c.resolve = .ok op ∧ s = base ++ args ∧ op.value? args = some x ∧
      c.run s = ⟨base ++ [x], .applied op args x⟩ := by
  cases hc : c.resolve with
  | error reason => exact .inl ⟨reason, rfl, run_of_error hc s⟩
  | ok op =>
      right
      by_cases hlen : s.length < op.arity
      · exact .inl ⟨op, rfl, hlen, run_of_length_lt hc hlen⟩
      · obtain ⟨base, args, x, rfl, hx⟩ :=
          Operator.exists_value?_of_arity_le (Nat.le_of_not_lt hlen)
        exact .inr ⟨op, base, args, x, rfl, rfl, hx, run_append base hc hx⟩

/-- A rejected call leaves the stack as it is. -/
theorem Call.run_eq_of_rejection? {c : Call} {s : Stack} {reason : Rejection}
    (h : (c.run s).event.rejection? = some reason) : c.run s = ⟨s, .rejected reason⟩ := by
  rcases c.run_cases s with ⟨_, -, hrun⟩ | ⟨_, -, -, hrun⟩ | ⟨_, _, _, _, -, -, -, hrun⟩
  · rw [hrun] at h ⊢
    cases h
    rfl
  · rw [hrun] at h ⊢
    cases h
    rfl
  · rw [hrun] at h
    cases h

end ReversePolish
