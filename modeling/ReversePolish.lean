import ReversePolish.Proofs.Binary64.Remainder
import ReversePolish.Proofs.Evaluation.Checked
import ReversePolish.Proofs.Evaluation.Rules
import ReversePolish.Proofs.Event.Distinct
import ReversePolish.Proofs.Event.Numerals
import ReversePolish.Proofs.Event.Refusal
import ReversePolish.Proofs.Operator.Resolution
import ReversePolish.Proofs.Operator.Sequence
import ReversePolish.Proofs.Pattern.Alternation
import ReversePolish.Proofs.Pattern.Words
import ReversePolish.Proofs.Program.Demand
import ReversePolish.Proofs.Program.Postfix
import ReversePolish.Proofs.Session.Depth
import ReversePolish.Proofs.Session.Erasure
import ReversePolish.Proofs.Session.Interchange
import ReversePolish.Proofs.Session.Undo
