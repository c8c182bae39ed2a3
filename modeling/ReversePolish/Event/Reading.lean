import ReversePolish.Event
import ReversePolish.Binary64.Reading

/-!
# Reading events

* `Application`, `Application.ofText?` — what the text of a successful call tells: the operator, its
  operands and its result. The text of a rejected call is none of these.
-/

namespace ReversePolish

/-- An operator, the operands it was applied to, and the result. -/
structure Application where
  /-- The operator. -/
  op : Operator
  /-- The operands, leftmost first. -/
  operands : List Float
  /-- The result. -/
  result : Float
  deriving DecidableEq, Repr

namespace Application

/-- The numbers of a list whose items are divided by a comma and a space. -/
def operands? (text : List Char) : Option (List Float) :=
  ((' ' :: text).splitOn ',').mapM fun
    | ' ' :: numeral => Binary64.ofNumeral? numeral
    | _ => none

/-- What stands behind the operator's token: the operands in brackets, an arrow and the result. -/
def ofOperands? (op : Operator) : List Char → Option Application
  | ' ' :: '[' :: text => do
    let operands ← operands? (text.takeWhile (· != ']'))
    match text.dropWhile (· != ']') with
    | ']' :: ' ' :: '-' :: '>' :: ' ' :: numeral =>
      (Binary64.ofNumeral? numeral).map fun result => ⟨op, operands, result⟩
    | _ => none
  | _ => none

/-- What the text of an event tells of a successful call. -/
def ofText? (text : String) : Option Application := do
  let chars := text.toList
  let op ← Operator.ofToken? (.ofList (chars.takeWhile (· != ' ')))
  ofOperands? op (chars.dropWhile (· != ' '))

end Application

end ReversePolish
