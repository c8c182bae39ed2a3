import ReversePolish.Session

/-!
# Evaluation as a sequence of effects

* `Memory`, `Logged` — the stack and the log that calls work on, and what may be done to them: a
  computation that changes both and may be refused. A refusal takes nothing back.
* `Operator.perform`, `Call.perform` — the evaluation, one effect after another. A line is written in
  three places: when a text is no operator's token, when operands are wanting, and when there is a
  result.
* `Step.perform`, `Session.perform` — a step of the caller and all steps of a session, which a refused
  call does not end.

Nothing in these types keeps a call from writing no line or several: that it writes one, and that of
the event of `Call.run`, is `Call.run_perform`.
-/

namespace ReversePolish

/-- What calls work on. -/
structure Memory where
  /-- The operands that wait for an operator. -/
  stack : Stack
  /-- The lines that have been written so far. -/
  log : List String
  deriving DecidableEq, Repr

/-- A computation on a stack and a log that may be refused. -/
abbrev Logged := EStateM Rejection Memory

/-- Writes a line to the log. -/
def writeLine (text : String) : Logged Unit :=
  modify fun m => { m with log := m.log ++ ["trace: " ++ text] }

/-- Takes the operands of `op` from the stack and puts its value on it. -/
def Operator.perform (op : Operator) : Logged Unit := do
  let s := (← get).stack
  if h : op.arity ≤ s.length then
    let operands := s.drop (s.length - op.arity)
    modify fun m => { m with stack := m.stack.take (s.length - op.arity) }
    let result := (op.value? operands).get <|
      isSome_value?_iff.mpr <| by rw [List.length_drop]; omega
    writeLine (op.token ++ " " ++ Event.operandList operands ++ " -> " ++
      .ofList (Binary64.numeral Event.resultStyle result))
    modify fun m => { m with stack := m.stack ++ [result] }
  else
    let reason := Rejection.stackUnderflow op op.arity s.length
    writeLine ("rejected " ++ op.token ++ ": " ++ reason.message)
    throw reason

/-- Carries out a call. -/
def Call.perform : Call → Logged Unit
  | token text =>
    match Operator.parse text with
    | .ok op => op.perform
    | .error reason => do
      writeLine ("rejected token " ++
        .ofList (Text.Quoted.encode Text.Quoted.isHidden text.toList) ++ ": " ++ reason.message)
      throw reason
  | operator op => op.perform

/-- The answer to a call. -/
def Event.answer (event : Event) : Logged Unit :=
  match event.rejection? with
  | none => return ()
  | some reason => throw reason

/-- Takes a step. -/
def Step.perform : Step → Logged Unit
  | call c => c.perform
  | push x => modify fun m => { m with stack := m.stack ++ [x] }
  | pop => modify fun m => { m with stack := m.stack.dropLast }
  | clear => modify fun m => { m with stack := [] }

/-- Takes a step and tells why it was refused, if it was; what was done until then stays done. -/
def Step.attempt (step : Step) : Logged (Option Rejection) := fun m =>
  match step.perform.run m with
  | .ok _ after => .ok none after
  | .error reason after => .ok (some reason) after

/-- An attempt carries the step out and keeps the reason for a refusal. -/
theorem Step.run_attempt (step : Step) (m : Memory) :
    step.attempt.run m =
      match step.perform.run m with
      | .ok _ after => .ok none after
      | .error reason after => .ok (some reason) after := rfl

/-- Takes the steps one after another and tells of each why it was refused, if it was. -/
def Session.perform : List Step → Logged (List (Option Rejection))
  | [] => return []
  | step :: rest => do
    let refusal ← step.attempt
    let refusals ← perform rest
    return refusal :: refusals

end ReversePolish
