import ReversePolish.Operator.Basic

/-!
# Patterns that find operator tokens

A pattern is a regular expression in its usual notation, where a letter stands for itself and a mark
does so after a backslash.

* `escape` — the pattern for a text as it stands. `Operator.escapedToken` is that of a token;
  `Operator.needsEscape` says for which operators it differs from the token.
* `alternation` — the pattern for the tokens of a list of operators, a bar between neighbours.
  `writeAlternative` and `dropLastBar` are the steps in which it is written (`dropLastBar_foldl`).
* `wholeToken` — the pattern for an operator token that is a whole word: the start of the text or
  white space stands before it, white space or the end of the text after it.
-/

namespace ReversePolish

namespace Pattern

/-- The pattern for `text` as it stands: every character but a letter follows a backslash. -/
def escape (text : List Char) : List Char :=
  text.flatMap fun c => if c.isAlpha then [c] else ['\\', c]

end Pattern

namespace Operator

/-- Whether the token of `op` needs a backslash in a pattern, that is, is not of letters only. -/
def needsEscape (op : Operator) : Bool := !op.token.toList.all Char.isAlpha

/-- The pattern for the token of `op`. -/
def escapedToken (op : Operator) : List Char := Pattern.escape op.token.toList

/-- Every token but that of the square root is a mark. -/
theorem needsEscape_eq_true_iff {op : Operator} : op.needsEscape = true ↔ op ≠ squareRoot := by
  cases op <;> decide

/-- The pattern for a token is the token, behind one backslash where it needs that. -/
theorem escapedToken_eq (op : Operator) :
    op.escapedToken = (if op.needsEscape then ['\\'] else []) ++ op.token.toList := by
  cases op <;> decide

end Operator

namespace Pattern

/-- The pattern for any of the tokens of `ops`: each is written with a bar after it, and the last
bar is dropped. -/
def alternation (ops : List Operator) : List Char :=
  (ops.flatMap fun op => op.escapedToken ++ ['|']).dropLast

/-- The pattern for one operator is that of its token. -/
theorem alternation_singleton (op : Operator) : alternation [op] = op.escapedToken := by
  unfold alternation
  rw [List.flatMap_cons, List.flatMap_nil, List.append_nil, List.dropLast_concat]

/-- A bar stands between neighbours. -/
theorem alternation_cons_cons (op op' : Operator) (ops : List Operator) :
    alternation (op :: op' :: ops) = op.escapedToken ++ '|' :: alternation (op' :: ops) := by
  have hrest : ((op' :: ops).flatMap fun op => op.escapedToken ++ ['|']) ≠ [] := by simp
  unfold alternation
  rw [List.flatMap_cons, List.append_assoc, List.dropLast_append_of_ne_nil (by simp),
    List.singleton_append, List.dropLast_cons_of_ne_nil hrest]

/-- Writes the pattern for the token of `op`, and a bar, behind what has been written. -/
def writeAlternative (written : List Char) (op : Operator) : List Char :=
  written ++ op.escapedToken ++ ['|']

/-- Drops the last character of a text if it is a bar. -/
def dropLastBar (text : List Char) : List Char :=
  if text.getLast? = some '|' then text.dropLast else text

/-- Every operator adds the pattern for its token and a bar to what has been written. -/
theorem foldl_writeAlternative (ops : List Operator) (written : List Char) :
    ops.foldl writeAlternative written =
      written ++ ops.flatMap fun op => op.escapedToken ++ ['|'] := by
  induction ops generalizing written with
  | nil => simp
  | cons op ops ih =>
      rw [List.foldl_cons, ih, List.flatMap_cons, writeAlternative, List.append_assoc,
        List.append_assoc, List.append_assoc]

/-- The pattern is what is written for all operators, less the bar after the last of them. When there
is no operator there is no bar to drop. -/
theorem dropLastBar_foldl (ops : List Operator) :
    dropLastBar (ops.foldl writeAlternative []) = alternation ops := by
  unfold dropLastBar alternation
  rw [foldl_writeAlternative, List.nil_append]
  split
  · rfl
  · next hlast =>
      rcases List.eq_nil_or_concat ops with rfl | ⟨earlier, op, rfl⟩
      · rfl
      · exact absurd (by simp) hlast

/-- The pattern for an operator token that is a whole word. -/
def wholeToken : List Char :=
  "(?<=^|\\s)(".toList ++ alternation Operator.all ++ ")(?=\\s|$)".toList

end Pattern

end ReversePolish
