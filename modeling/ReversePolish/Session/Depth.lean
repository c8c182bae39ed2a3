import ReversePolish.Session

/-!
# The depth of a stack under a session

* `Step.atDepth` — what a step comes to when nothing but the depth of the stack is known: the
  rejection, if there is one, and the depth after it.
* `Session.depths` — the same for all steps of a session.

No operand takes part, which says that operands never decide whether a call is rejected.
-/

namespace ReversePolish

/-- What is told of a step by depth alone. -/
structure DepthReport where
  /-- Why the step fails, if it does. -/
  rejection? : Option Rejection
  /-- The depth of the stack after the step. -/
  depth : Nat
  deriving DecidableEq, Repr

/-- A step on a stack of which only the depth `n` is known. -/
def Step.atDepth (step : Step) (n : Nat) : DepthReport :=
  match step with
  | call c =>
    match c.resolve with
    | .error reason => ⟨some reason, n⟩
    | .ok op =>
      if n < op.arity then ⟨some (.stackUnderflow op op.arity n), n⟩
      else ⟨none, n + 1 - op.arity⟩
  | push _ => ⟨none, n + 1⟩
  | pop => ⟨none, n - 1⟩
  | clear => ⟨none, 0⟩

/-- The steps one after another on a stack of which only the depth `n` is known. -/
def Session.depths (n : Nat) : List Step → List DepthReport
  | [] => []
  | step :: rest => step.atDepth n :: depths (step.atDepth n).depth rest

/-- What a report tells of by depth alone. -/
def Report.toDepth (report : Report) : DepthReport := ⟨report.rejection?, report.stack.length⟩

end ReversePolish
