/-!
# The alternatives of a pattern as texts

* `Pattern.pieces` — the texts that a pattern of escaped texts with bars between them stands for: a
  backslash makes the next character stand for itself, and a bar without one ends a text.
-/

namespace ReversePolish.Pattern

/-- The texts read from a pattern, the last of which ends where the pattern ends. -/
def piecesFrom : List Char → List (List Char)
  | [] => [[]]
  | '\\' :: c :: rest => (piecesFrom rest).modifyHead (c :: ·)
  | '|' :: rest => [] :: piecesFrom rest
  | c :: rest => (piecesFrom rest).modifyHead (c :: ·)

/-- The texts that a pattern has as its alternatives. The empty pattern has none. -/
def pieces (pattern : List Char) : List (List Char) :=
  if pattern = [] then [] else piecesFrom pattern

end ReversePolish.Pattern
