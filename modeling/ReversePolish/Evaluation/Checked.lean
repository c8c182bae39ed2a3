import Mathlib.Data.Nat.PSub
import ReversePolish.Evaluation

/-!
# Evaluation in steps that may fail

* `Fault` — what a call could run into after the depth of the stack has been checked.
* `Stack.cutAt?` — a stack cut in two, at a place that must lie within it.
* `Operator.applyChecked` — applies an operator in single steps, none of which takes for granted that
  the one before it left what it needs: the place of the cut is found by a subtraction, the stack is
  cut there, and the operator is asked for its value on the upper part.
-/

namespace ReversePolish

/-- What a call could run into after the depth of the stack has been checked. -/
inductive Fault where
  /-- More operands are to be taken than there are on the stack. -/
  | subtraction
  /-- The stack is to be cut above its top. -/
  | cut
  /-- The operator has no value on the operands. -/
  | value
  deriving DecidableEq, Repr

/-- The operands below a place of the stack and those from it on. -/
def Stack.cutAt? (s : Stack) (place : Nat) : Option (Stack × Stack) :=
  if place ≤ s.length then some (s.splitAt place) else none

/-- A stack is cut in two at a place iff the two make it up and the lower one ends there. -/
theorem Stack.cutAt?_eq_some_iff {s base args : Stack} {place : Nat} :
    s.cutAt? place = some (base, args) ↔ s = base ++ args ∧ base.length = place := by
  unfold cutAt?
  rw [List.splitAt_eq]
  constructor
  · intro h
    split at h
    · next hplace =>
        cases h
        exact ⟨(List.take_append_drop place s).symm, List.length_take_of_le hplace⟩
    · cases h
  · rintro ⟨rfl, rfl⟩
    simp

/-- Applies `op` to the last operands of `s`, step by step. -/
def Operator.applyChecked (op : Operator) (s : Stack) : Except Fault Outcome :=
  if s.length < op.arity then .ok ⟨s, .rejected (.stackUnderflow op op.arity s.length)⟩
  else
    match Nat.psub s.length op.arity with
    | none => .error .subtraction
    | some place =>
      match s.cutAt? place with
      | none => .error .cut
      | some (base, operands) =>
        match op.value? operands with
        | none => .error .value
        | some result => .ok ⟨base ++ [result], .applied op operands result⟩

end ReversePolish
