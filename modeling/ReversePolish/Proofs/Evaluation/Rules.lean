import ReversePolish.Evaluation.Rules

/-!
# Evaluation follows the rules

* **Arithmetic** (`makes_iff_value?_eq_some`): the value that is computed is the one that the rules
  of arithmetic make of the operands, and there is none on another number of operands.
* **Outcomes** (`run_iff_evaluates`): what a call leaves is the one outcome that the rules allow, for
  any text and any stack. So the rules leave no case open and no two of them meet.
-/

namespace ReversePolish

/-! ### Arithmetic -/

/-- **Arithmetic.** The value of an operator is what it makes of its operands. -/
theorem Operator.makes_iff_value?_eq_some {op : Operator} {args : List Float} {x : Float} :
    op.Makes args x ↔ op.value? args = some x := by
  constructor
  · intro h
    cases h <;> rfl
  · intro h
    unfold value? at h
    split at h <;> cases h
    · exact .root _
    · exact .sum _ _
    · exact .difference _ _
    · exact .product _ _
    · exact .quotient _ _
    · exact .power _ _
    · exact .remainder _ _

/-! ### Outcomes -/

namespace Call

variable {t : String} {s : Stack} {o : Outcome}

/-- An outcome that the rules allow is the one that the call leaves. -/
theorem run_of_evaluates (h : Evaluates t s o) : (token t).run s = o := by
  cases h with
  | unknown ht => exact run_of_unknown ht s
  | underflow op ht hs => exact run_of_length_lt (Operator.parse_eq_ok_iff.mpr ht) hs
  | applied op base args x ht hs hlen hx =>
      rw [hs]
      exact run_append base (Operator.parse_eq_ok_iff.mpr ht)
        (Operator.makes_iff_value?_eq_some.mp hx)

/-- The rules allow what a call leaves. -/
theorem evaluates_run (t : String) (s : Stack) : Evaluates t s ((token t).run s) := by
  rcases (token t).run_cases s with
    ⟨reason, hresolve, hrun⟩ | ⟨op, hresolve, hlen, hrun⟩ |
      ⟨op, base, args, x, hresolve, hs, hx, hrun⟩
  · obtain ⟨rfl, ht⟩ := Operator.parse_eq_error_iff.mp hresolve
    rw [hrun]
    exact .unknown ht
  · rw [hrun]
    exact .underflow op (Operator.parse_eq_ok_iff.mp hresolve) hlen
  · rw [hrun]
    exact .applied op base args x (Operator.parse_eq_ok_iff.mp hresolve) hs
      (Operator.length_of_value?_eq_some hx) (Operator.makes_iff_value?_eq_some.mpr hx)

/-- **Outcomes.** A call by a text leaves an outcome iff the rules allow it for that text and that
stack, and a call by an operator leaves what a call by the operator's token does. -/
theorem run_iff_evaluates :
    (∀ (t : String) (s : Stack) (o : Outcome), (token t).run s = o ↔ Evaluates t s o) ∧
      ∀ (op : Operator) (s : Stack), (operator op).run s = (token op.token).run s := by
  constructor
  · intro t s o
    constructor
    · rintro rfl
      exact evaluates_run t s
    · exact run_of_evaluates
  · intro op s
    exact (run_token op s).symm

end Call

end ReversePolish
