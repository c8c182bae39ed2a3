import ReversePolish.Evaluation

/-!
# Sessions: calls mixed with the caller's own work on the stack

* `Step`, `Report` — what a caller does to the stack, and what is told of it: the reply and the
  stack afterwards.
* `Step.run`, `Session.run` — the reports of a step and of a session. A rejected call does not end
  the session, since it leaves the stack as it was.
* **Failure** (`Step.run_eq_of_rejection?`): what fails is a call, and it leaves the stack alone.
* `Session.final`, `Session.transcript` — the stack a session leaves, and its steps each with its
  report.
* **Composition** (`run_append`): a session may be cut anywhere and its second part run on the stack
  that the first leaves.
-/

namespace ReversePolish

/-- What a caller does. -/
inductive Step where
  /-- Call for an operator. -/
  | call (call : Call)
  /-- Push an operand. -/
  | push (operand : Float)
  /-- Take the last operand away. -/
  | pop
  /-- Take all operands away. -/
  | clear
  deriving DecidableEq, Repr

/-- What a caller is told. -/
inductive Reply where
  /-- What the call did. -/
  | called (event : Event)
  /-- The operand has been pushed. -/
  | pushed
  /-- The operand that has been taken away; none from an empty stack. -/
  | popped (operand : Option Float)
  /-- All operands have been taken away. -/
  | cleared
  deriving DecidableEq, Repr

/-- The event of a call; nothing else makes one. -/
def Reply.event? : Reply → Option Event
  | called event => some event
  | _ => none

/-- What is told of a step. -/
structure Report where
  /-- The answer to the step. -/
  reply : Reply
  /-- The stack after the step. -/
  stack : Stack
  deriving DecidableEq, Repr

namespace Report

/-- The lines that the step leaves in the log. -/
def log (report : Report) : List String := report.reply.event?.toList.map Event.logLine

/-- Why the step failed, if it did. -/
def rejection? (report : Report) : Option Rejection := report.reply.event?.bind Event.rejection?

end Report

/-- Takes a step on the stack `s`. -/
def Step.run (step : Step) (s : Stack) : Report :=
  match step with
  | call c => ⟨.called (c.run s).event, (c.run s).stack⟩
  | push x => ⟨.pushed, s ++ [x]⟩
  | pop => ⟨.popped s.getLast?, s.dropLast⟩
  | clear => ⟨.cleared, []⟩

/-- Only calls fail, and a failed one tells why and leaves the stack as it is. -/
theorem Step.run_eq_of_rejection? {step : Step} {s : Stack} {reason : Rejection}
    (h : (step.run s).rejection? = some reason) :
    step.run s = ⟨.called (.rejected reason), s⟩ := by
  cases step with
  | call c =>
      rw [run, Call.run_eq_of_rejection? h]
  | push x => cases h
  | pop => cases h
  | clear => cases h

/-- A failed step leaves the stack as it is. -/
theorem Step.stack_run_of_rejection? {step : Step} {s : Stack} {reason : Rejection}
    (h : (step.run s).rejection? = some reason) : (step.run s).stack = s := by
  rw [run_eq_of_rejection? h]

namespace Session

/-- The reports of the steps, taken one after another from the stack `s` on. -/
def run (s : Stack) : List Step → List Report
  | [] => []
  | step :: rest => step.run s :: run (step.run s).stack rest

/-- The stack that the steps leave when they are taken from the stack `s` on. -/
def final (s : Stack) (steps : List Step) : Stack :=
  steps.foldl (fun s step => (step.run s).stack) s

@[simp] theorem run_nil (s : Stack) : run s [] = [] := rfl

@[simp] theorem run_cons (s : Stack) (step : Step) (rest : List Step) :
    run s (step :: rest) = step.run s :: run (step.run s).stack rest := rfl

@[simp] theorem final_nil (s : Stack) : final s [] = s := rfl

@[simp] theorem final_cons (s : Stack) (step : Step) (rest : List Step) :
    final s (step :: rest) = final (step.run s).stack rest := rfl

/-- A session may be cut anywhere. -/
theorem run_append (s : Stack) (p q : List Step) :
    run s (p ++ q) = run s p ++ run (final s p) q := by
  induction p generalizing s with
  | nil => rfl
  | cons step rest ih => simp [run, final, ih]

/-- Every step is reported. -/
@[simp] theorem length_run (s : Stack) (steps : List Step) :
    (run s steps).length = steps.length := by
  induction steps generalizing s with
  | nil => rfl
  | cons step rest ih => simp [run, ih]

/-- The steps of a session, each with what is told of it. -/
def transcript (s : Stack) (steps : List Step) : List (Step × Report) := steps.zip (run s steps)

@[simp] theorem transcript_nil (s : Stack) : transcript s [] = [] := rfl

@[simp] theorem transcript_cons (s : Stack) (step : Step) (rest : List Step) :
    transcript s (step :: rest) =
      (step, step.run s) :: transcript (step.run s).stack rest := rfl

/-- The reports are the second half of the transcript. -/
theorem map_snd_transcript (s : Stack) (steps : List Step) :
    (transcript s steps).map Prod.snd = run s steps := by
  unfold transcript
  exact List.map_snd_zip (Nat.le_of_eq (length_run s steps))

end Session

end ReversePolish
