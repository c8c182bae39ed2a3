import ReversePolish.Proofs.Event.Reading
import ReversePolish.Proofs.Session.Logged
import ReversePolish.Session.Undo

/-!
# A session is undone from its log

* **Logs** (`log_of_mem_transcript_call`, `log_of_mem_transcript`): a call leaves one line in the
  log, and the text of it tells whether the call succeeded; nothing else leaves a line. That these
  are the lines written while the session is carried out is `Session.run_perform`.
* **One step** (`Step.exists_undo_run`): the stack before a step is found again from the trace of the
  step and the stack after it. For a successful call this is the text of the event read back: the
  result stands on top, and the operands have stood in its place.
* **Sessions** (`undo_traces`): from the traces of a session and its last stack, every stack of the
  session is found again, the first one included.
-/

namespace ReversePolish

/-- The text of a call's event tells whether the call succeeded. -/
theorem Call.isSome_ofText?_text_iff (c : Call) (s : Stack) :
    (Application.ofText? (c.run s).event.text).isSome = true ↔
      (c.run s).event.rejection? = none := by
  rcases c.run_cases s with ⟨_, -, hrun⟩ | ⟨_, -, -, hrun⟩ | ⟨_, _, args, _, -, -, hx, hrun⟩
  · simp [hrun, Application.ofText?_text_rejected, Event.rejection?]
  · simp [hrun, Application.ofText?_text_rejected, Event.rejection?]
  · have hargs : args ≠ [] := Operator.ne_nil_of_value?_eq_some hx
    simp [hrun, Application.ofText?_text_applied hargs, Event.rejection?]

/-! ### One step -/

/-- The stack before a call is found again from the text of its event. -/
theorem Call.undo_run (c : Call) (s : Stack) :
    (Trace.call (c.run s).event.text).undo (c.run s).stack = some s := by
  rcases c.run_cases s with ⟨_, -, hrun⟩ | ⟨_, -, -, hrun⟩ | ⟨_, base, args, x, -, rfl, hx, hrun⟩
  · simp [hrun, Trace.undo, Application.ofText?_text_rejected]
  · simp [hrun, Trace.undo, Application.ofText?_text_rejected]
  · have hargs : args ≠ [] := Operator.ne_nil_of_value?_eq_some hx
    simp [hrun, Trace.undo, Application.ofText?_text_applied hargs]

/-- **One step.** A step that does not take all operands away leaves a trace, from which the stack
before it is found again. -/
theorem Step.exists_undo_run {step : Step} (h : step ≠ .clear) (s : Stack) :
    ∃ trace, (step.run s).trace? = some trace ∧ trace.undo (step.run s).stack = some s := by
  cases step with
  | call c => exact ⟨_, rfl, c.undo_run s⟩
  | push x => exact ⟨.push, rfl, by simp [run, Trace.undo]⟩
  | pop =>
      refine ⟨.pop s.getLast?, rfl, ?_⟩
      have hsplit : s.dropLast ++ s.getLast?.toList = s := by
        rcases s.eq_nil_or_concat with rfl | ⟨base, x, rfl⟩
        · rfl
        · simp
      simp [run, Trace.undo, hsplit]
  | clear => exact absurd rfl h

namespace Session

/-! ### Logs -/

/-- What is told of a step in a session is told of it on some stack. -/
theorem exists_run_of_mem_transcript {s : Stack} {steps : List Step} {step : Step} {report : Report}
    (h : (step, report) ∈ transcript s steps) : ∃ s', report = step.run s' := by
  induction steps generalizing s with
  | nil => cases h
  | cons first rest ih =>
      rw [transcript_cons] at h
      rcases List.mem_cons.mp h with heq | hrest
      · cases heq
        exact ⟨s, rfl⟩
      · exact ih hrest

/-- **Logs.** A call leaves one line in the log, and the text of its event tells whether it
succeeded. -/
theorem log_of_mem_transcript_call {s : Stack} {steps : List Step} {c : Call} {report : Report}
    (h : (.call c, report) ∈ transcript s steps) :
    ∃ text, report.log = ["trace: " ++ text] ∧ report.trace? = some (.call text) ∧
      ((Application.ofText? text).isSome = true ↔ report.rejection? = none) := by
  obtain ⟨s', rfl⟩ := exists_run_of_mem_transcript h
  exact ⟨(c.run s').event.text, rfl, rfl, c.isSome_ofText?_text_iff s'⟩

/-- **Logs.** What is no call leaves nothing in the log. -/
theorem log_of_mem_transcript {s : Stack} {steps : List Step} {step : Step} {report : Report}
    (h : (step, report) ∈ transcript s steps) (hstep : ∀ c, step ≠ .call c) : report.log = [] := by
  obtain ⟨s', rfl⟩ := exists_run_of_mem_transcript h
  cases step with
  | call c => exact absurd rfl (hstep c)
  | push x => rfl
  | pop => rfl
  | clear => rfl

/-! ### Sessions -/

/-- The stacks of a session are found again from its traces and its last stack. -/
theorem exists_undo_eq {s : Stack} {steps : List Step} (h : .clear ∉ steps) :
    ∃ traces, (run s steps).map Report.trace? = traces.map some ∧
      undo traces (final s steps) = some (s :: (run s steps).map Report.stack) := by
  induction steps generalizing s with
  | nil => exact ⟨[], rfl, rfl⟩
  | cons step rest ih =>
      obtain ⟨hstep, hrest⟩ := not_or.mp (mt List.mem_cons.mpr h)
      obtain ⟨trace, htrace, hbefore⟩ := Step.exists_undo_run (Ne.symm hstep) s
      obtain ⟨traces, htraces, hlater⟩ := ih hrest (s := (step.run s).stack)
      refine ⟨trace :: traces, ?_, ?_⟩
      · rw [run_cons, List.map_cons, List.map_cons, htrace, htraces]
      · -- the first of the later stacks is the one after this step
        rw [final_cons, undo, hlater]
        simp [hbefore]

/-- **Sessions.** In a session that never takes all operands away at once, each call leaves one line
in the log, which tells by itself whether the call succeeded, and nothing else leaves a line. From
what the lines tell, the operands that were taken away and the last stack, every stack of the session
is found again, back to the first. Carried out with a log that lines are written to one by one, the
session fails alike, ends on the same stack and writes these lines and no other. -/
theorem undo_traces (s : Stack) (steps : List Step) (h : .clear ∉ steps) :
    (∀ log, (perform steps).run ⟨s, log⟩ =
      .ok ((run s steps).map Report.rejection?)
        ⟨final s steps, log ++ (run s steps).flatMap Report.log⟩) ∧
    (∀ c report, (.call c, report) ∈ transcript s steps →
      ∃ text, report.log = ["trace: " ++ text] ∧ report.trace? = some (.call text) ∧
        ((Application.ofText? text).isSome = true ↔ report.rejection? = none)) ∧
    (∀ step report, (step, report) ∈ transcript s steps → (∀ c, step ≠ .call c) →
      report.log = []) ∧
    ∃ traces, (run s steps).map Report.trace? = traces.map some ∧
      undo traces (final s steps) = some (s :: (run s steps).map Report.stack) := by
  refine ⟨?_, ?_, ?_, exists_undo_eq h⟩
  · intro log
    exact run_perform s log steps
  · intro c report hreport
    exact log_of_mem_transcript_call hreport
  · intro step report hreport hstep
    exact log_of_mem_transcript hreport hstep

/-- A session with a remainder, a call on too short a stack and a pop of nothing. -/
theorem undo_traces_remainder :
    Step.clear ∉ [.push 2, .call (.token "%"), .call (.operator .add), .pop, .pop] ∧
    ∃ traces,
      (run [-7] [.push 2, .call (.token "%"), .call (.operator .add), .pop, .pop]).map
        Report.trace? = traces.map some ∧
      undo traces [] = some [[-7], [-7, 2], [-1], [-1], [], []] := by
  have hclear : Step.clear ∉ [.push 2, .call (.token "%"), .call (.operator .add), .pop, .pop] := by
    simp
  have hstacks : (run [-7] [.push 2, .call (.token "%"), .call (.operator .add), .pop,
      .pop]).map Report.stack = [[-7, 2], [-1], [-1], [], []] := by decide +kernel
  obtain ⟨traces, htraces, hundo⟩ := (undo_traces [-7] _ hclear).2.2.2
  rw [hstacks] at hundo
  exact ⟨hclear, traces, htraces, hundo⟩

end Session

end ReversePolish
