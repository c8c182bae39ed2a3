import ReversePolish.Pattern.Alternation
import ReversePolish.Pattern.Pieces

/-!
# An alternation is joined by single bars, and is read back

* **Joining** (`alternation_eq_intercalate`, `count_bar_alternation`, `head?_alternation_ne`,
  `getLast?_alternation_ne`): the alternation of any operators holds their escaped tokens with one
  bar between neighbours, and none at its ends. No escaped token holds a bar itself.
* **Reading** (`piecesFrom_escape_append`, `pieces_alternation`): an escaped text is read as that text,
  so the pieces of an alternation are the tokens.
* **Alternations** (`alternation_joined_and_readable`): the two together, for the text as it is
  written step by step; the tokens tell the operators.
-/

namespace ReversePolish

namespace Operator

/-- The pattern for a token holds no bar. -/
theorem bar_not_mem_escapedToken (op : Operator) : '|' ∉ op.escapedToken := by
  cases op <;> decide

/-- The pattern for a token is not empty. -/
theorem escapedToken_ne_nil (op : Operator) : op.escapedToken ≠ [] := by
  cases op <;> decide

end Operator

namespace Pattern

variable {c : Char} {rest : List Char}

/-! ### Joining -/

/-- The pattern for one operator or more is not empty. -/
theorem alternation_cons_ne_nil (op : Operator) (ops : List Operator) :
    alternation (op :: ops) ≠ [] := by
  cases ops with
  | nil =>
      rw [alternation_singleton]
      exact op.escapedToken_ne_nil
  | cons op' ops =>
      rw [alternation_cons_cons]
      exact List.append_ne_nil_of_left_ne_nil op.escapedToken_ne_nil _

/-- **Joining.** The pattern is the patterns of the tokens with a bar between neighbours. -/
theorem alternation_eq_intercalate :
    (ops : List Operator) → alternation ops = ['|'].intercalate (ops.map Operator.escapedToken)
  | [] => rfl
  | [op] => by rw [alternation_singleton, List.map_singleton, List.intercalate_singleton]
  | op :: op' :: ops => by
      have ih := alternation_eq_intercalate (op' :: ops)
      rw [List.map_cons] at ih
      rw [alternation_cons_cons, ih, List.map_cons, List.map_cons, List.intercalate_cons_cons,
        List.append_assoc, List.singleton_append]

/-- There is one bar less than there are operators. -/
theorem count_bar_alternation :
    (ops : List Operator) → (alternation ops).count '|' = ops.length - 1
  | [] => rfl
  | [op] => by
      rw [alternation_singleton]
      exact List.count_eq_zero_of_not_mem op.bar_not_mem_escapedToken
  | op :: op' :: ops => by
      have hop : op.escapedToken.count '|' = 0 :=
        List.count_eq_zero_of_not_mem op.bar_not_mem_escapedToken
      rw [alternation_cons_cons, List.count_append, hop, List.count_cons_self,
        count_bar_alternation (op' :: ops), Nat.zero_add]
      rfl

/-- The pattern does not begin with a bar. -/
theorem head?_alternation_ne : (ops : List Operator) → (alternation ops).head? ≠ some '|'
  | [] => nofun
  | [op] => by
      rw [alternation_singleton]
      exact fun h => op.bar_not_mem_escapedToken (List.mem_of_head? h)
  | op :: op' :: ops => by
      have hfirst := List.head?_eq_some_head op.escapedToken_ne_nil
      rw [alternation_cons_cons, List.head?_append, hfirst, Option.some_or, ← hfirst]
      exact fun h => op.bar_not_mem_escapedToken (List.mem_of_head? h)

/-- The pattern does not end with a bar. -/
theorem getLast?_alternation_ne : (ops : List Operator) → (alternation ops).getLast? ≠ some '|'
  | [] => nofun
  | [op] => by
      rw [alternation_singleton]
      exact fun h => op.bar_not_mem_escapedToken (List.mem_of_getLast? h)
  | op :: op' :: ops => by
      have hrest : alternation (op' :: ops) ≠ [] := alternation_cons_ne_nil op' ops
      have hlast := List.getLast?_eq_some_getLast hrest
      rw [alternation_cons_cons, List.getLast?_append, List.getLast?_cons_of_ne_nil hrest, hlast,
        Option.some_or, ← hlast]
      exact getLast?_alternation_ne (op' :: ops)

/-! ### Reading -/

/-- A letter belongs to the text in which it stands. -/
theorem piecesFrom_letter (h : c.isAlpha = true) :
    piecesFrom (c :: rest) = (piecesFrom rest).modifyHead (c :: ·) := by
  have hne : c ≠ '\\' ∧ c ≠ '|' := by
    constructor <;>
    · rintro rfl
      revert h
      decide
  rw [piecesFrom] <;> simp [hne]

/-- An escaped text is read as that text, ahead of what follows it. -/
theorem piecesFrom_escape_append (text rest : List Char) :
    piecesFrom (escape text ++ rest) = (piecesFrom rest).modifyHead (text ++ ·) := by
  induction text with
  | nil => exact (congrFun List.modifyHead_id (piecesFrom rest)).symm
  | cons c text ih =>
      have htail : ((piecesFrom rest).modifyHead (text ++ ·)).modifyHead (c :: ·) =
          (piecesFrom rest).modifyHead (c :: text ++ ·) := by
        rw [List.modifyHead_modifyHead]
        rfl
      unfold escape at ih ⊢
      rw [List.flatMap_cons, List.append_assoc]
      by_cases hc : c.isAlpha = true
      · rw [if_pos hc, List.singleton_append, piecesFrom_letter hc, ih, htail]
      · rw [if_neg hc, List.cons_append, List.singleton_append, piecesFrom, ih, htail]

/-- An escaped text is read as one piece. -/
theorem piecesFrom_escape (text : List Char) : piecesFrom (escape text) = [text] := by
  have hread := piecesFrom_escape_append text []
  rwa [List.append_nil, piecesFrom, List.modifyHead_cons, List.append_nil] at hread

/-- A bar behind an escaped text ends the piece. -/
theorem piecesFrom_escape_bar (text rest : List Char) :
    piecesFrom (escape text ++ '|' :: rest) = text :: piecesFrom rest := by
  rw [piecesFrom_escape_append, piecesFrom, List.modifyHead_cons, List.append_nil]

/-- The pattern for one operator or more is read as their tokens. -/
theorem piecesFrom_alternation_cons :
    (op : Operator) → (ops : List Operator) →
      piecesFrom (alternation (op :: ops)) = (op :: ops).map fun op => op.token.toList
  | op, [] => by
      rw [alternation_singleton]
      exact piecesFrom_escape _
  | op, op' :: ops => by
      rw [alternation_cons_cons, List.map_cons, ← piecesFrom_alternation_cons op' ops]
      exact piecesFrom_escape_bar _ _

/-- **Reading.** The pieces of a pattern are the tokens. -/
theorem pieces_alternation (ops : List Operator) :
    pieces (alternation ops) = ops.map fun op => op.token.toList := by
  cases ops with
  | nil => rfl
  | cons op ops =>
      rw [pieces, if_neg (alternation_cons_ne_nil op ops), piecesFrom_alternation_cons]

/-- Tokens are recognised one by one. -/
theorem mapM_ofToken?_map (ops : List Operator) :
    ((ops.map fun op => op.token.toList).mapM fun piece => Operator.ofToken? (.ofList piece)) =
      some ops := by
  have hread : (fun piece => Operator.ofToken? (.ofList piece)) ∘ (fun op => op.token.toList) =
      fun op => pure op := by
    funext op
    show Operator.ofToken? (.ofList op.token.toList) = some op
    rw [String.ofList_toList, Operator.ofToken?_token]
  rw [List.mapM_map, hread, List.mapM_pure, List.map_id']
  rfl

/-! ### Alternations -/

/-- **Alternations.** What is written for the operators one after another, less the bar at its end, is
the patterns of their tokens in the same order with one bar between neighbours and none at either
end; a pattern is the token itself, behind a backslash unless it is that of the square root. Read
from the left, the text gives the tokens back, and these tell the operators, however many there are
and however often one is repeated. -/
theorem alternation_joined_and_readable :
    (∀ ops : List Operator,
      alternation ops = dropLastBar (ops.foldl writeAlternative []) ∧
        alternation ops = ['|'].intercalate (ops.map Operator.escapedToken) ∧
        (alternation ops).count '|' = ops.length - 1 ∧
        (alternation ops).head? ≠ some '|' ∧ (alternation ops).getLast? ≠ some '|' ∧
        pieces (alternation ops) = (ops.map fun op => op.token.toList) ∧
        (pieces (alternation ops)).mapM (fun piece => Operator.ofToken? (.ofList piece)) =
          some ops) ∧
      (∀ op : Operator,
        op.escapedToken = (if op.needsEscape then ['\\'] else []) ++ op.token.toList ∧
          (op.needsEscape = true ↔ op ≠ .squareRoot)) ∧
      alternation Operator.all = "\\+|\\-|\\*|\\/|sqrt|\\^|\\%".toList := by
  refine ⟨fun ops => ?_, fun op => ?_, by decide⟩
  · have hpieces : pieces (alternation ops) = ops.map fun op => op.token.toList :=
      pieces_alternation ops
    refine ⟨(dropLastBar_foldl ops).symm, alternation_eq_intercalate ops,
      count_bar_alternation ops, head?_alternation_ne ops, getLast?_alternation_ne ops, hpieces, ?_⟩
    rw [hpieces]
    exact mapM_ofToken?_map ops
  · exact ⟨op.escapedToken_eq, Operator.needsEscape_eq_true_iff⟩

end Pattern

end ReversePolish
