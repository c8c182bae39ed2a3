import ReversePolish.Session

/-!
# Failed calls can be taken out of a session

* `Session.accepted` — the steps that are left of a session when its failed calls are taken out. The
  session itself decides which those are.
* **Erasure** (`rejected_calls_erasable`): the steps that are left fail nowhere, and each of them is
  told what it was told in the whole session, reply and stack. A failed call may be repeated at once
  as often as one likes and fails the same way each time.

The two sessions do not run in step, since one has fewer steps. What carries the induction is that a
failed call is a step on the spot (`Step.stack_run_of_rejection?`): meanwhile the shorter session
waits on the same stack.
-/

namespace ReversePolish.Session

/-- Whether a step that has been taken did what it was to do. -/
def succeeded (taken : Step × Report) : Bool := taken.2.rejection?.isNone

/-- The session without the calls that fail in it. -/
def accepted (s : Stack) (steps : List Step) : List Step :=
  ((transcript s steps).filter succeeded).map Prod.fst

@[simp] theorem accepted_nil (s : Stack) : accepted s [] = [] := rfl

/-- A step that does not fail stays. -/
theorem accepted_cons_of_eq_none {s : Stack} {step : Step} (h : (step.run s).rejection? = none)
    (rest : List Step) :
    accepted s (step :: rest) = step :: accepted (step.run s).stack rest := by
  simp [accepted, succeeded, h]

/-- A call that fails goes, and what is left starts from the same stack. -/
theorem accepted_cons_of_eq_some {s : Stack} {step : Step} {reason : Rejection}
    (h : (step.run s).rejection? = some reason) (rest : List Step) :
    accepted s (step :: rest) = accepted s rest := by
  simp [accepted, succeeded, h, Step.stack_run_of_rejection? h]

/-- What is left of a session runs as it did in it. -/
theorem transcript_accepted (s : Stack) (steps : List Step) :
    transcript s (accepted s steps) = (transcript s steps).filter succeeded := by
  induction steps generalizing s with
  | nil => rfl
  | cons step rest ih =>
      cases h : (step.run s).rejection? with
      | none =>
          have hok : succeeded (step, step.run s) = true := by simp [succeeded, h]
          rw [accepted_cons_of_eq_none h, transcript_cons, transcript_cons, ih,
            List.filter_cons_of_pos hok]
      | some reason =>
          -- the step is left out on both sides, and what follows starts from `s` on both
          have hfail : ¬ succeeded (step, step.run s) = true := by simp [succeeded, h]
          rw [accepted_cons_of_eq_some h, transcript_cons, List.filter_cons_of_neg hfail,
            Step.stack_run_of_rejection? h, ih]

/-- No step of what is left of a session fails. -/
theorem rejection?_eq_none_of_mem_run_accepted {s : Stack} {steps : List Step} {report : Report}
    (h : report ∈ run s (accepted s steps)) : report.rejection? = none := by
  rw [← map_snd_transcript, transcript_accepted] at h
  obtain ⟨taken, htaken, rfl⟩ := List.mem_map.mp h
  have hok : succeeded taken = true := (List.mem_filter.mp htaken).2
  exact Option.isNone_iff_eq_none.mp hok

/-- What is left of a session ends on the stack that the session ends on. -/
theorem final_accepted (s : Stack) (steps : List Step) :
    final s (accepted s steps) = final s steps := by
  induction steps generalizing s with
  | nil => rfl
  | cons step rest ih =>
      cases h : (step.run s).rejection? with
      | none => rw [accepted_cons_of_eq_none h, final_cons, final_cons, ih]
      | some reason =>
          rw [accepted_cons_of_eq_some h, final_cons, Step.stack_run_of_rejection? h, ih]

/-- A step that fails fails again on the stack that it leaves. -/
theorem run_replicate_of_rejection? {s : Stack} {step : Step} {reason : Rejection}
    (h : (step.run s).rejection? = some reason) (n : Nat) :
    run s (List.replicate n step) = List.replicate n ⟨.called (.rejected reason), s⟩ := by
  induction n with
  | zero => rfl
  | succ n ih =>
      rw [List.replicate_succ, run_cons, Step.run_eq_of_rejection? h, ih, List.replicate_succ]

/-- **Erasure.** With its failed calls taken out, a session fails nowhere, every step that is left
is told the same, and the final stack is the same. A call that fails at any point of a session fails
there any number of times, for the same reason, with the same event and on the same stack. -/
theorem rejected_calls_erasable (s : Stack) (steps : List Step) :
    (∀ report ∈ run s (accepted s steps), report.rejection? = none) ∧
    transcript s (accepted s steps) = (transcript s steps).filter succeeded ∧
    final s (accepted s steps) = final s steps ∧
    ∀ (call : Call) (reason : Rejection),
      ((Step.call call).run (final s steps)).rejection? = some reason →
      ∀ n, run s (steps ++ List.replicate n (.call call)) =
        run s steps ++ List.replicate n ⟨.called (.rejected reason), final s steps⟩ := by
  refine ⟨?_, transcript_accepted s steps, final_accepted s steps, ?_⟩
  · intro report hreport
    exact rejection?_eq_none_of_mem_run_accepted hreport
  · intro call reason hrejected n
    rw [run_append, run_replicate_of_rejection? hrejected]

/-- A session with an unknown token, a call on too short a stack and two steps that stay. -/
theorem rejected_calls_erasable_pop_push :
    accepted [2] [.call (.token "xyz"), .pop, .call (.token "+"), .push 9, .call (.token "*")] =
      [.pop, .push 9] ∧
    final [2] [.pop, .push 9] = [9] ∧
    ∀ n, run [2] ([.pop, .push 9] ++ List.replicate n (.call (.token "*"))) =
      run [2] [.pop, .push 9] ++
        List.replicate n ⟨.called (.rejected (.stackUnderflow .multiply 2 1)), [9]⟩ :=
  ⟨by decide, rfl, (rejected_calls_erasable [2] [.pop, .push 9]).2.2.2 (.token "*") _ (by decide)⟩

end ReversePolish.Session
