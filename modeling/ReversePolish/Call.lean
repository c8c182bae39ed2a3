import ReversePolish.Rejection

/-!
# Calls: asking for an operator by its token or by itself

* `Operator.parse` — the operator that a text is the token of, or the rejection of that text.
  **Exactness** (`parse_eq_ok_iff`, `parse_eq_error_iff`): it succeeds on the tokens alone, and a
  refused text is reported as it stands.
* `Call`, `Call.resolve` — the two ways to name the operator of an evaluation step, and the operator
  they come to.
-/

namespace ReversePolish

/-- The operator written as `text`. -/
def Operator.parse (text : String) : Except Rejection Operator :=
  match ofToken? text with
  | some op => .ok op
  | none => .error (.unknownOperator text)

/-- A text is read as an operator iff it is that operator's token. -/
theorem Operator.parse_eq_ok_iff {text : String} {op : Operator} :
    parse text = .ok op ↔ op.token = text := by
  rw [← ofToken?_eq_some_iff, parse]
  cases ofToken? text <;> simp

/-- A text is refused iff it is no operator's token, and the refusal names that text. -/
theorem Operator.parse_eq_error_iff {text : String} {reason : Rejection} :
    parse text = .error reason ↔
      reason = .unknownOperator text ∧ ∀ op : Operator, op.token ≠ text := by
  rw [← ofToken?_eq_none_iff, parse]
  cases ofToken? text <;> simp [eq_comm]

/-- The request for an evaluation step. -/
inductive Call where
  /-- By the text an operator is written with, which may be that of none. -/
  | token (text : String)
  /-- By the operator itself. -/
  | operator (op : Operator)
  deriving DecidableEq, Repr

/-- The operator that a call asks for. -/
def Call.resolve : Call → Except Rejection Operator
  | token text => Operator.parse text
  | operator op => .ok op

/-- Every operator can be asked for by its token. -/
@[simp] theorem Call.resolve_token (op : Operator) : (token op.token).resolve = .ok op :=
  Operator.parse_eq_ok_iff.mpr rfl

end ReversePolish
