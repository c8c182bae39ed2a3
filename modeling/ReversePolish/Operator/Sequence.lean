import ReversePolish.Call
import ReversePolish.Text.Space

/-!
# Sequences of operators as text

* `Operator.spaced` — the tokens of several operators with single spaces between them.
* `Operator.concatenated` — the same without anything between them.
* `Operator.parseWords` — the operators that the words of a text are the tokens of; a text with
  another word in it is refused with the first such word.
-/

namespace ReversePolish.Operator

/-- No token holds white space. -/
theorem isSpace_of_mem_token {op : Operator} {c : Char} (h : c ∈ op.token.toList) :
    Text.isSpace c = false := by
  have hall : op.token.toList.all (fun c => !Text.isSpace c) = true := by cases op <;> decide
  simpa using List.all_eq_true.mp hall c h

/-- The tokens of `ops` with single spaces between them. -/
def spaced (ops : List Operator) : String := " ".intercalate (ops.map token)

/-- The tokens of `ops` without anything between them. -/
def concatenated (ops : List Operator) : String := String.join (ops.map token)

/-- The operators that the words of `text` are written for. -/
def parseWords (text : String) : Except Rejection (List Operator) :=
  (Text.words text.toList).mapM fun word => parse (.ofList word)

end ReversePolish.Operator
