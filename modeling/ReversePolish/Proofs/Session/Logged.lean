import ReversePolish.Session.Logged

/-!
# One line for each call

* `Operator.perform` and `Call.perform` in the three cases of `Call.run_cases`, each with the line
  that is written in it.
* **Calls** (`Call.run_perform`): carried out on any stack and any log, a call answers and leaves the
  stack as `Call.run` tells, and adds the line of its event to the log, and nothing else.
* **Sessions** (`Session.run_perform`): the log of a session consists of the lines of its reports, in
  their order.
-/

namespace ReversePolish

variable {op : Operator} {args : List Float} {x : Float} {s : Stack} {log : List String}

/-- With enough operands on the stack, the operator's value takes their place and the log tells of
both. -/
theorem Operator.run_perform_append (base : Stack) (h : op.value? args = some x) :
    op.perform.run ⟨base ++ args, log⟩ =
      .ok () ⟨base ++ [x], log ++ [(Event.applied op args x).logLine]⟩ := by
  have hlen : args.length = op.arity := length_of_value?_eq_some h
  have hle : op.arity ≤ (base ++ args).length := by
    rw [List.length_append]
    omega
  have hcut : (base ++ args).length - op.arity = base.length := by
    rw [List.length_append]
    omega
  simp only [perform, writeLine, EStateM.run_bind, EStateM.run_get, EStateM.run_modify, dif_pos hle,
    hcut, List.take_left, List.drop_left, h, Option.get_some]
  rfl

/-- With too few operands on the stack, it stays as it is and the log tells what is wanting. -/
theorem Operator.run_perform_of_length_lt (h : s.length < op.arity) :
    op.perform.run ⟨s, log⟩ = .error (.stackUnderflow op op.arity s.length)
      ⟨s, log ++ [(Event.rejected (.stackUnderflow op op.arity s.length)).logLine]⟩ := by
  have hle : ¬ op.arity ≤ s.length := Nat.not_le.mpr h
  simp only [perform, writeLine, EStateM.run_bind, EStateM.run_get, EStateM.run_modify,
    EStateM.run_throw, dif_neg hle]
  rfl

/-- A call that comes to an operator is carried out as the operator, with no line of its own. -/
theorem Call.perform_of_resolve {c : Call} (h : c.resolve = .ok op) : c.perform = op.perform := by
  cases c with
  | token text =>
      have hparse : Operator.parse text = .ok op := h
      simp [perform, hparse]
  | operator op' =>
      cases h
      rfl

/-- A call that comes to no operator leaves the stack as it is, and the log tells of its token. -/
theorem Call.run_perform_of_error {c : Call} {reason : Rejection} (h : c.resolve = .error reason) :
    c.perform.run ⟨s, log⟩ = .error reason ⟨s, log ++ [(Event.rejected reason).logLine]⟩ := by
  cases c with
  | token text =>
      have hparse : Operator.parse text = .error reason := h
      obtain ⟨rfl, -⟩ := Operator.parse_eq_error_iff.mp hparse
      simp only [perform, hparse, writeLine, EStateM.run_bind, EStateM.run_modify,
        EStateM.run_throw]
      rfl
  | operator op => cases h

/-- **Calls.** A call answers and leaves the stack as its outcome tells, and adds one line to the
log. -/
theorem Call.run_perform (c : Call) (s : Stack) (log : List String) :
    c.perform.run ⟨s, log⟩ =
      (c.run s).event.answer.run ⟨(c.run s).stack, log ++ [(c.run s).event.logLine]⟩ := by
  rcases c.run_cases s with
    ⟨reason, hc, hrun⟩ | ⟨op, hc, hlen, hrun⟩ | ⟨op, base, args, x, hc, rfl, hx, hrun⟩
  · rw [run_perform_of_error hc, hrun]
    rfl
  · rw [perform_of_resolve hc, Operator.run_perform_of_length_lt hlen, hrun]
    rfl
  · rw [perform_of_resolve hc, Operator.run_perform_append base hx, hrun]
    rfl

/-- A step is refused for the reason that its report tells, leaves the stack that it tells and adds
its lines to the log. -/
theorem Step.run_attempt_eq (step : Step) (s : Stack) (log : List String) :
    step.attempt.run ⟨s, log⟩ =
      .ok (step.run s).rejection? ⟨(step.run s).stack, log ++ (step.run s).log⟩ := by
  cases step with
  | call c =>
      have hrejection : ((call c).run s).rejection? = (c.run s).event.rejection? := rfl
      rw [run_attempt, perform, Call.run_perform, hrejection, Event.answer]
      cases (c.run s).event.rejection? <;> rfl
  | push x => simp [run_attempt, perform, run, Report.rejection?, Report.log, Reply.event?]
  | pop => simp [run_attempt, perform, run, Report.rejection?, Report.log, Reply.event?]
  | clear => simp [run_attempt, perform, run, Report.rejection?, Report.log, Reply.event?]

/-- **Sessions.** The steps are refused for the reasons that the reports tell, and their lines make
up the log. -/
theorem Session.run_perform (s : Stack) (log : List String) (steps : List Step) :
    (perform steps).run ⟨s, log⟩ =
      .ok ((run s steps).map Report.rejection?)
        ⟨final s steps, log ++ (run s steps).flatMap Report.log⟩ := by
  induction steps generalizing s log with
  | nil => simp [perform]
  | cons step rest ih =>
      simp only [perform, EStateM.run_bind, Step.run_attempt_eq, ih, EStateM.run_pure, run_cons,
        final_cons, List.map_cons, List.flatMap_cons, List.append_assoc]

end ReversePolish
