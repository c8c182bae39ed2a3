import Mathlib.Data.List.Forall2
import ReversePolish.Session.Depth

/-!
# Depth decides what fails

* `Step.atDepth` in three rules (`atDepth_call_of_error`, `atDepth_call_of_lt`,
  `atDepth_call_of_le`): a token that is no operator's is refused at any depth, an operator is
  refused at a depth below its arity, and is carried out at any other.
* **Simulation** (`toDepth_run`, `map_toDepth_run`): a counter that starts at the depth of the stack
  and takes the same steps gives the same rejections and stays at the depth of the stack.
* `Step.Alike` — steps that differ in nothing but a pushed operand. Sessions of such steps on stacks
  of one depth cannot be told apart by what fails in them (`depth_simulates`).
-/

namespace ReversePolish

namespace Step

variable {c : Call} {op : Operator} {reason : Rejection} {n : Nat}

/-- At any depth, a call that comes to no operator is refused and changes nothing. -/
theorem atDepth_call_of_error (h : c.resolve = .error reason) (n : Nat) :
    (call c).atDepth n = ⟨some reason, n⟩ := by
  unfold atDepth
  simp only [h]

/-- Below the arity of its operator, a call is refused and changes nothing. -/
theorem atDepth_call_of_lt (h : c.resolve = .ok op) (hn : n < op.arity) :
    (call c).atDepth n = ⟨some (.stackUnderflow op op.arity n), n⟩ := by
  unfold atDepth
  simp only [h]
  exact if_pos hn

/-- From the arity of its operator on, a call leaves one operand for those that it takes. -/
theorem atDepth_call_of_le (h : c.resolve = .ok op) (hn : op.arity ≤ n) :
    (call c).atDepth n = ⟨none, n + 1 - op.arity⟩ := by
  unfold atDepth
  simp only [h]
  exact if_neg (Nat.not_lt.mpr hn)

/-- At any depth, a text that is no operator's token is refused by name and changes nothing. -/
theorem atDepth_token_of_unknown {text : String} (h : ∀ op : Operator, op.token ≠ text) (n : Nat) :
    (call (.token text)).atDepth n = ⟨some (.unknownOperator text), n⟩ := by
  have hc : (Call.token text).resolve = .error (.unknownOperator text) :=
    Operator.parse_eq_error_iff.mpr ⟨rfl, h⟩
  exact atDepth_call_of_error hc n

/-- **One step.** The counter is told of a step what depth tells of its report. -/
theorem toDepth_run (step : Step) (s : Stack) : (step.run s).toDepth = step.atDepth s.length := by
  cases step with
  | call c =>
      rcases c.run_cases s with
        ⟨reason, hc, hrun⟩ | ⟨op, hc, hlen, hrun⟩ | ⟨op, base, args, x, hc, rfl, hx, hrun⟩
      · rw [atDepth_call_of_error hc, run, hrun]
        rfl
      · rw [atDepth_call_of_lt hc hlen, run, hrun]
        rfl
      · -- the operands go and one value comes, which is the whole change of depth
        have hargs : args.length = op.arity := Operator.length_of_value?_eq_some hx
        have hle : op.arity ≤ (base ++ args).length := by
          rw [List.length_append]
          omega
        have hdepth : (base ++ [x]).length = (base ++ args).length + 1 - op.arity := by
          simp only [List.length_append, List.length_singleton]
          omega
        rw [atDepth_call_of_le hc hle, run, hrun, ← hdepth]
        rfl
  | push x =>
      show DepthReport.mk none (s ++ [x]).length = ⟨none, s.length + 1⟩
      rw [List.length_append, List.length_singleton]
  | pop =>
      show DepthReport.mk none s.dropLast.length = ⟨none, s.length - 1⟩
      rw [List.length_dropLast]
  | clear => rfl

/-- Two steps that differ in a pushed operand at most. -/
inductive Alike : Step → Step → Prop where
  /-- The same call. -/
  | call (c : Call) : Alike (call c) (call c)
  /-- Two operands. -/
  | push (x y : Float) : Alike (push x) (push y)
  /-- An operand is taken away. -/
  | pop : Alike pop pop
  /-- All operands are taken away. -/
  | clear : Alike clear clear

/-- Depth does not tell a pushed operand from another. -/
theorem Alike.atDepth_eq {step step' : Step} (h : Alike step step') (n : Nat) :
    step.atDepth n = step'.atDepth n := by
  cases h <;> rfl

end Step

namespace Session

/-- **All steps.** The counter is told of a session what depth tells of its reports. -/
theorem map_toDepth_run (s : Stack) (steps : List Step) :
    (run s steps).map Report.toDepth = depths s.length steps := by
  induction steps generalizing s with
  | nil => rfl
  | cons step rest ih =>
      have hstep : (step.run s).toDepth = step.atDepth s.length := step.toDepth_run s
      have hdepth : (step.run s).stack.length = (step.atDepth s.length).depth := by
        rw [← hstep]
        rfl
      rw [run_cons, List.map_cons, ih, hstep, hdepth]
      rfl

/-- The counter gives the same on sessions whose steps differ in pushed operands at most. -/
theorem depths_eq_of_alike {steps steps' : List Step} (h : List.Forall₂ Step.Alike steps steps')
    (n : Nat) : depths n steps = depths n steps' := by
  induction h generalizing n with
  | nil => rfl
  | cons hstep _ ih =>
      unfold depths
      rw [hstep.atDepth_eq, ih]

/-- **Simulation.** Step by step a session fails where a counter of its depth fails, for the same
reasons and with the same depth left. The counter refuses a text that is no operator's token at any
depth, and an operator, called for by its token or directly, at the depths below its arity. So
operands have no part in it: another stack of the same depth and other pushed operands give the same
failures at the same steps and the same depths. -/
theorem depth_simulates (s : Stack) (steps : List Step) :
    (run s steps).map Report.toDepth = depths s.length steps ∧
    (∀ text, (∀ op : Operator, op.token ≠ text) → ∀ n,
      (Step.call (.token text)).atDepth n = ⟨some (.unknownOperator text), n⟩) ∧
    (∀ (op : Operator) (c : Call), c = .token op.token ∨ c = .operator op → ∀ n,
      (n < op.arity → (Step.call c).atDepth n = ⟨some (.stackUnderflow op op.arity n), n⟩) ∧
      (op.arity ≤ n → (Step.call c).atDepth n = ⟨none, n + 1 - op.arity⟩)) ∧
    ∀ (s' : Stack) (steps' : List Step), s'.length = s.length →
      List.Forall₂ Step.Alike steps steps' →
      (run s' steps').map Report.toDepth = (run s steps).map Report.toDepth := by
  refine ⟨map_toDepth_run s steps, fun _ => Step.atDepth_token_of_unknown, ?_, ?_⟩
  · intro op c hc n
    have hresolve : c.resolve = .ok op := by
      rcases hc with rfl | rfl
      · exact Call.resolve_token op
      · rfl
    exact ⟨Step.atDepth_call_of_lt hresolve, Step.atDepth_call_of_le hresolve⟩
  · intro s' steps' hlen halike
    rw [map_toDepth_run, map_toDepth_run, hlen, depths_eq_of_alike halike]

/-- Division of `0` by `0` and the root of `-1` fail no more than the operators do on `4` and `9`. -/
theorem depth_simulates_nan :
    (run [0, 0] [.call (.token "/"), .push (-1), .call (.token "sqrt"), .call (.token "xyz"),
        .call (.token "+"), .call (.token "+")]).map Report.toDepth =
      [⟨none, 1⟩, ⟨none, 2⟩, ⟨none, 2⟩, ⟨some (.unknownOperator "xyz"), 2⟩, ⟨none, 1⟩,
        ⟨some (.stackUnderflow .add 2 1), 1⟩] ∧
    (run [4, 2] [.call (.token "/"), .push 9, .call (.token "sqrt"), .call (.token "xyz"),
        .call (.token "+"), .call (.token "+")]).map Report.toDepth =
      (run [0, 0] [.call (.token "/"), .push (-1), .call (.token "sqrt"), .call (.token "xyz"),
        .call (.token "+"), .call (.token "+")]).map Report.toDepth := by
  refine ⟨(depth_simulates _ _).1, (depth_simulates _ _).2.2.2 _ _ rfl ?_⟩
  exact .cons (.call _) (.cons (.push _ _) (.cons (.call _) (.cons (.call _)
    (.cons (.call _) (.cons (.call _) .nil)))))

end Session

end ReversePolish
