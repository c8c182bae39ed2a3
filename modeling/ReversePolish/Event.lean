import ReversePolish.Rejection
import ReversePolish.Binary64.Numeral
import ReversePolish.Text.Quoted

/-!
# Events: what a call did

* `Event` — a call applied an operator to operands and got a result, or was rejected.
* `text` — the event on one line. Operands stand in a list and show whether they are whole; the
  result is written out in full. A token that is no operator's is quoted, so that an event is one
  line whatever the token holds; the message after it gives the token verbatim.
* `logLine` — the line that the event leaves in the trace log.
-/

namespace ReversePolish

/-- What a call did. -/
inductive Event where
  /-- The operator `op` was applied to `operands`, leftmost first, and gave `result`. -/
  | applied (op : Operator) (operands : List Float) (result : Float)
  /-- The call was rejected and nothing was done. -/
  | rejected (reason : Rejection)
  deriving DecidableEq, Repr

namespace Event

/-- Why the call failed, if it did. -/
def rejection? : Event → Option Rejection
  | applied _ _ _ => none
  | rejected reason => some reason

/-- Operands show whether they are whole, and are written with a power of ten below `10 ^ -4` and
from `10 ^ 16` on. -/
def operandStyle : Binary64.NumeralStyle := ⟨some (-4, 16), true⟩

/-- Results are written out in full, whole ones without a point. -/
def resultStyle : Binary64.NumeralStyle := ⟨none, false⟩

/-- The text of a list of operands. -/
def operandList (operands : List Float) : String :=
  "[" ++ ", ".intercalate (operands.map fun x => .ofList (Binary64.numeral operandStyle x)) ++ "]"

/-- The event as text. The characters beyond ASCII that `hidden` holds of are written by code point
where a token is quoted. -/
def textHiding (hidden : Char → Bool) : Event → String
  | applied op operands result =>
    op.token ++ " " ++ operandList operands ++ " -> " ++
      .ofList (Binary64.numeral resultStyle result)
  | rejected (.unknownOperator token) =>
    "rejected token " ++ .ofList (Text.Quoted.encode hidden token.toList) ++ ": " ++
      (Rejection.unknownOperator token).message
  | rejected (.stackUnderflow op needed found) =>
    "rejected " ++ op.token ++ ": " ++ (Rejection.stackUnderflow op needed found).message

/-- The event as text, all characters that would not show being written by code point where a token
is quoted. -/
def text : Event → String := textHiding Text.Quoted.isHidden

/-- The line that the event leaves in the log. -/
def logLine (event : Event) : String := "trace: " ++ event.text

end Event

end ReversePolish
