import ReversePolish.Text.Space

/-!
# Regular expressions

* `Regex` — the expressions that patterns are made of.
* `Regex.Matches` — when an expression matches a piece of a text, given what stands before and after
  the piece. The tests of a boundary match the empty piece and look at what stands around it.
* `Regex.MatchesAt` — the same for the piece between two positions of a text.
-/

namespace ReversePolish

/-- A regular expression. -/
inductive Regex where
  /-- The empty text. -/
  | empty
  /-- One given character. -/
  | char (c : Char)
  /-- One character of white space. -/
  | space
  /-- The start of the text. -/
  | start
  /-- The end of the text. -/
  | stop
  /-- One expression after the other. -/
  | seq (first second : Regex)
  /-- One expression or the other. -/
  | either (left right : Regex)
  /-- The text before the place ends in a match. -/
  | behind (test : Regex)
  /-- The text after the place begins with a match. -/
  | ahead (test : Regex)
  deriving DecidableEq, Repr

namespace Regex

/-- The expression matches `piece`, which stands after `before` and before `after`. -/
def Matches : Regex → (before piece after : List Char) → Prop
  | empty, _, piece, _ => piece = []
  | char c, _, piece, _ => piece = [c]
  | space, _, piece, _ => ∃ c, Text.isSpace c = true ∧ piece = [c]
  | start, before, piece, _ => piece = [] ∧ before = []
  | stop, _, piece, after => piece = [] ∧ after = []
  | seq first second, before, piece, after =>
    ∃ u v, piece = u ++ v ∧
      first.Matches before u (v ++ after) ∧ second.Matches (before ++ u) v after
  | either left right, before, piece, after =>
    left.Matches before piece after ∨ right.Matches before piece after
  | behind test, before, piece, after =>
    piece = [] ∧ ∃ u v, before = u ++ v ∧ test.Matches u v after
  | ahead test, before, piece, after =>
    piece = [] ∧ ∃ u v, after = u ++ v ∧ test.Matches before u v

/-- The expression matches the piece of `text` between the positions `i` and `j`. -/
def MatchesAt (r : Regex) (text : List Char) (i j : Nat) : Prop :=
  r.Matches (text.take i) ((text.drop i).take (j - i)) (text.drop j)

end Regex

end ReversePolish
