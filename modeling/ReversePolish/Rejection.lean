import ReversePolish.Operator.Basic

/-!
# Rejections: why a call is refused

* `Rejection` — the two causes: the token names no operator, or the stack holds fewer operands than
  the operator takes.
* `Rejection.message` — the text that reports a rejection. A token is given verbatim, whatever
  characters it holds.
-/

namespace ReversePolish

/-- The cause for which a call is refused. -/
inductive Rejection where
  /-- The token is that of no operator. -/
  | unknownOperator (token : String)
  /-- The operator takes `needed` operands and the stack holds only `found`. -/
  | stackUnderflow (operator : Operator) (needed found : Nat)
  deriving DecidableEq, Repr

namespace Rejection

/-- The text that reports a rejection to the caller. -/
def message : Rejection → String
  | unknownOperator token => "Unknown operator: " ++ token
  | stackUnderflow operator needed found =>
    "Wrong number of arguments: '" ++ operator.token ++ "' takes " ++ toString needed ++
      ", stack holds " ++ toString found

instance : ToString Rejection where
  toString := message

end Rejection

end ReversePolish
