import ReversePolish.Session
import ReversePolish.Event.Reading

/-!
# Undoing a session from its log

* `Trace` — what is kept of a step once it is over: the text of a call's event, or the operand that
  was taken away.
* `Trace.undo` — the stack before a step, from its trace and the stack after it.
* `Session.undo` — the stacks before each step of a session, from the traces and the last stack.
-/

namespace ReversePolish

/-- What is kept of a step. -/
inductive Trace where
  /-- The text of the event of a call. -/
  | call (text : String)
  /-- An operand was pushed. -/
  | push
  /-- The operand that was taken away; none from an empty stack. -/
  | pop (operand : Option Float)
  deriving DecidableEq, Repr

/-- What is kept of a reported step; nothing is when all operands were taken away. -/
def Report.trace? (report : Report) : Option Trace :=
  match report.reply with
  | .called event => some (.call event.text)
  | .pushed => some .push
  | .popped operand => some (.pop operand)
  | .cleared => none

/-- The stack before a step, from the stack `s` after it. A successful call has its result on top,
and its operands are put back in its place; a rejected one has changed nothing. There is none when
the top of `s` is not the result of the call. -/
def Trace.undo (trace : Trace) (s : Stack) : Option Stack :=
  match trace with
  | call text =>
    match Application.ofText? text with
    | some applied =>
      if s.getLast? = some applied.result then some (s.dropLast ++ applied.operands) else none
    | none => some s
  | push => some s.dropLast
  | pop operand => some (s ++ operand.toList)

/-- The stacks before the steps that left `traces`, the last of which left the stack `s`; the stack
`s` itself comes last. -/
def Session.undo (traces : List Trace) (s : Stack) : Option (List Stack) :=
  match traces with
  | [] => some [s]
  | trace :: rest => do
    let later ← undo rest s
    let before ← trace.undo (later.headD s)
    pure (before :: later)

end ReversePolish
