import Mathlib.Data.List.Forall2
import ReversePolish.Proofs.Session.Logged

/-!
# Calls by token and calls by operator are interchangeable

* `Call.Interchange`, `Step.Interchange` — calls, and steps, of which one may stand for the other: a
  token for the operator that is written with it, or the operator for its token.
* **Resolution decides** (`Call.run_eq_of_resolve_eq`, `Call.resolve_eq_of_run_nil_eq`): what a call
  does depends on nothing but what it resolves to, and can be told from what the call does on the
  empty stack. Calls that resolve alike are just the interchangeable ones
  (`Call.interchange_iff_resolve_eq`), so no other calls do the same on all stacks
  (`Call.interchange_iff_run_eq`).
* **Interchange** (`Session.run_of_interchange`): with some calls exchanged for others that they are
  interchangeable with, a session is told the same at every step and writes the same log. A token
  that is no operator's cannot be exchanged for any operator and is refused on every stack.
-/

namespace ReversePolish

namespace Call

/-- The second call may stand for the first. -/
inductive Interchange : Call → Call → Prop where
  /-- A call stands for itself. -/
  | refl (c : Call) : Interchange c c
  /-- The operator that a text is recognised as stands for the text. -/
  | byOperator {text : String} {op : Operator} (h : Operator.ofToken? text = some op) :
      Interchange (token text) (operator op)
  /-- The token of an operator stands for the operator. -/
  | byToken (op : Operator) : Interchange (operator op) (token op.token)

/-- A text that is recognised as an operator resolves to it. -/
theorem resolve_of_ofToken?_eq_some {text : String} {op : Operator}
    (h : Operator.ofToken? text = some op) : (token text).resolve = .ok op :=
  Operator.parse_eq_ok_iff.mpr (Operator.ofToken?_eq_some_iff.mp h)

/-- A text that is not recognised resolves to its own rejection. -/
theorem resolve_of_ofToken?_eq_none {text : String} (h : Operator.ofToken? text = none) :
    (token text).resolve = .error (.unknownOperator text) :=
  Operator.parse_eq_error_iff.mpr ⟨rfl, Operator.ofToken?_eq_none_iff.mp h⟩

/-- A call is refused on resolution for nothing but an unknown token. -/
theorem exists_eq_unknownOperator {c : Call} {reason : Rejection} (h : c.resolve = .error reason) :
    ∃ text, reason = .unknownOperator text := by
  cases c with
  | token text => exact ⟨text, (Operator.parse_eq_error_iff.mp h).1⟩
  | operator op => cases h

/-- Calls that resolve alike do the same on every stack. -/
theorem run_eq_of_resolve_eq {c c' : Call} (h : c.resolve = c'.resolve) (s : Stack) :
    c.run s = c'.run s := by
  unfold run
  rw [h]

/-- Interchangeable calls resolve alike. -/
theorem Interchange.resolve_eq {c c' : Call} (h : c.Interchange c') :
    c'.resolve = c.resolve := by
  cases h with
  | refl => rfl
  | byOperator htext => exact (resolve_of_ofToken?_eq_some htext).symm
  | byToken op => exact resolve_token op

/-- Two texts that resolve alike are the same text: a rejection names the text, and no operator has
two tokens. -/
theorem eq_of_resolve_token_eq {text text' : String}
    (h : (token text).resolve = (token text').resolve) : text = text' := by
  cases htext : Operator.ofToken? text with
  | none =>
      rw [resolve_of_ofToken?_eq_none htext] at h
      obtain ⟨hreason, -⟩ := Operator.parse_eq_error_iff.mp h.symm
      cases hreason
      rfl
  | some op =>
      rw [resolve_of_ofToken?_eq_some htext] at h
      have hfirst : op.token = text := Operator.ofToken?_eq_some_iff.mp htext
      have hsecond : op.token = text' := Operator.parse_eq_ok_iff.mp h.symm
      exact hfirst.symm.trans hsecond

/-- **Resolution decides.** Two calls are interchangeable iff they resolve alike. -/
theorem interchange_iff_resolve_eq {c c' : Call} :
    c.Interchange c' ↔ c'.resolve = c.resolve := by
  refine ⟨Interchange.resolve_eq, ?_⟩
  intro h
  cases c with
  | token text =>
      cases c' with
      | token text' =>
          cases eq_of_resolve_token_eq h
          exact .refl _
      | operator op =>
          have hop : op.token = text := Operator.parse_eq_ok_iff.mp h.symm
          exact .byOperator (Operator.ofToken?_eq_some_iff.mpr hop)
  | operator op =>
      cases c' with
      | token text =>
          have hop : op.token = text := Operator.parse_eq_ok_iff.mp h
          rw [← hop]
          exact .byToken op
      | operator op' =>
          have hop : op' = op := Except.ok.inj h
          rw [hop]
          exact .refl _

/-- What a call does on the empty stack tells what it resolves to: every operator wants operands
there, and either refusal names what has been called for. -/
theorem resolve_eq_of_run_nil_eq {c c' : Call} (h : c.run [] = c'.run []) :
    c.resolve = c'.resolve := by
  have hempty : ∀ op : Operator, ([] : Stack).length < op.arity := Operator.arity_pos
  cases hc : c.resolve with
  | error reason =>
      cases hc' : c'.resolve with
      | error reason' =>
          rw [run_of_error hc, run_of_error hc'] at h
          cases h
          rfl
      | ok op =>
          obtain ⟨text, rfl⟩ := exists_eq_unknownOperator hc
          rw [run_of_error hc, run_of_length_lt hc' (hempty op)] at h
          cases h
  | ok op =>
      cases hc' : c'.resolve with
      | error reason =>
          obtain ⟨text, rfl⟩ := exists_eq_unknownOperator hc'
          rw [run_of_length_lt hc (hempty op), run_of_error hc'] at h
          cases h
      | ok op' =>
          rw [run_of_length_lt hc (hempty op), run_of_length_lt hc' (hempty op')] at h
          cases h
          rfl

/-- Two calls are interchangeable iff they do the same on every stack. -/
theorem interchange_iff_run_eq {c c' : Call} :
    c.Interchange c' ↔ ∀ s : Stack, c'.run s = c.run s := by
  rw [interchange_iff_resolve_eq]
  constructor
  · intro h s
    exact run_eq_of_resolve_eq h s
  · intro h
    exact resolve_eq_of_run_nil_eq (h [])

end Call

/-- The second step may stand for the first. -/
inductive Step.Interchange : Step → Step → Prop where
  /-- A step stands for itself. -/
  | refl (step : Step) : Interchange step step
  /-- A call stands for one that it is interchangeable with. -/
  | call {c c' : Call} (h : c.Interchange c') : Interchange (call c) (call c')

/-- Interchangeable steps are told the same on every stack. -/
theorem Step.Interchange.run_eq {step step' : Step} (h : step.Interchange step') (s : Stack) :
    step'.run s = step.run s := by
  cases h with
  | refl => rfl
  | call hcall => rw [run, run, Call.run_eq_of_resolve_eq hcall.resolve_eq]

namespace Session

/-- Sessions of interchangeable steps are told the same. -/
theorem run_eq_of_interchange {steps steps' : List Step}
    (h : List.Forall₂ Step.Interchange steps steps') (s : Stack) :
    run s steps' = run s steps := by
  induction h generalizing s with
  | nil => rfl
  | cons hstep _ ih => rw [run_cons, run_cons, hstep.run_eq, ih]

/-- Sessions of interchangeable steps end on the same stack. -/
theorem final_eq_of_interchange {steps steps' : List Step}
    (h : List.Forall₂ Step.Interchange steps steps') (s : Stack) :
    final s steps' = final s steps := by
  induction h generalizing s with
  | nil => rfl
  | cons hstep _ ih => rw [final_cons, final_cons, hstep.run_eq, ih]

/-- **Interchange.** Any of a session's calls may be exchanged for calls that they are
interchangeable with: every step is told the same, reply and stack, and the same lines are written,
one for each call and none twice. Calls that are not interchangeable differ on some stack. A text that
is no operator's token is refused by name on every stack, which stays as it is, and no call by
operator is told the same as that. -/
theorem run_of_interchange {steps steps' : List Step}
    (h : List.Forall₂ Step.Interchange steps steps') (s : Stack) :
    run s steps' = run s steps ∧
    (∀ log, (perform steps').run ⟨s, log⟩ = (perform steps).run ⟨s, log⟩) ∧
    (∀ (c : Call) (t : Stack), ((Step.call c).run t).log = [(c.run t).event.logLine] ∧
      ∀ log, c.perform.run ⟨t, log⟩ =
        (c.run t).event.answer.run ⟨(c.run t).stack, log ++ [(c.run t).event.logLine]⟩) ∧
    (∀ c c' : Call, c.Interchange c' ↔ ∀ t : Stack, c'.run t = c.run t) ∧
    ∀ text, Operator.ofToken? text = none → ∀ t : Stack,
      (Step.call (.token text)).run t = ⟨.called (.rejected (.unknownOperator text)), t⟩ ∧
      ∀ op, (Step.call (.operator op)).run t ≠ (Step.call (.token text)).run t := by
  refine ⟨run_eq_of_interchange h s, ?_, ?_, fun _ _ => Call.interchange_iff_run_eq, ?_⟩
  · intro log
    rw [run_perform, run_perform, run_eq_of_interchange h, final_eq_of_interchange h]
  · intro c t
    exact ⟨rfl, c.run_perform t⟩
  · intro text htext t
    have hrun : (Call.token text).run t = ⟨t, .rejected (.unknownOperator text)⟩ :=
      Call.run_of_error (Call.resolve_of_ofToken?_eq_none htext) t
    refine ⟨by rw [Step.run, hrun], ?_⟩
    intro op hsame
    rw [Step.run, Step.run, hrun] at hsame
    -- an operator's call is carried out or refused for want of operands, never for its name
    rcases (Call.operator op).run_cases t with
      ⟨_, hc, -⟩ | ⟨_, -, -, hop⟩ | ⟨_, _, _, _, -, -, -, hop⟩
    · cases hc
    · rw [hop] at hsame
      cases hsame
    · rw [hop] at hsame
      cases hsame

/-- A token for an operator that underflows, an operator for its token, and a text that has to
stay. -/
theorem run_of_interchange_underflow :
    List.Forall₂ Step.Interchange
      [.call (.token "*"), .push 2, .call (.operator .subtract), .call (.token "**")]
      [.call (.operator .multiply), .push 2, .call (.token "-"), .call (.token "**")] ∧
    run [5] [.call (.operator .multiply), .push 2, .call (.token "-"), .call (.token "**")] =
      run [5] [.call (.token "*"), .push 2, .call (.operator .subtract), .call (.token "**")] ∧
    Operator.ofToken? "**" = none ∧
    (Step.call (.token "**")).run [3] =
      ⟨.called (.rejected (.unknownOperator "**")), [3]⟩ := by
  have hsteps : List.Forall₂ Step.Interchange
      [.call (.token "*"), .push 2, .call (.operator .subtract), .call (.token "**")]
      [.call (.operator .multiply), .push 2, .call (.token "-"), .call (.token "**")] :=
    .cons (.call (.byOperator (by decide))) (.cons (.refl _)
      (.cons (.call (.byToken .subtract)) (.cons (.refl _) .nil)))
  obtain ⟨hrun, -, -, -, hunknown⟩ := run_of_interchange hsteps [5]
  exact ⟨hsteps, hrun, by decide, (hunknown "**" (by decide) [3]).1⟩

end Session

end ReversePolish
