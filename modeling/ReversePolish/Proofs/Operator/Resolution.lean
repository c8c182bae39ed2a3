import Mathlib.Data.List.Nodup
import ReversePolish.Call

/-!
# Resolution is exact, and the inverse of writing an operator

* **Spelling** (`existsUnique_ofToken?`): every operator is recognised from one text alone.
* **Catalogue** (`filter_token_eq_toList_ofToken?`): the operators of the catalogue that a text is
  the token of are the recognised one, if there is one, and no other; so the scan of the catalogue
  passes over none and stops at none that stands earlier.
* **Vocabulary** (`isSome_ofToken?_iff`): the texts that are recognised are the seven tokens. A token
  with a character added, removed, changed or written in another case is one of these or nothing.
* **Resolution** (`resolution_exact`): all of this, with the refusal that gives the text back.
-/

namespace ReversePolish.Operator

/-! ### Spelling and catalogue -/

/-- **Spelling.** Every operator is recognised from one text alone. -/
theorem existsUnique_ofToken? (op : Operator) : ∃! t, ofToken? t = some op := by
  refine ⟨op.token, ofToken?_token op, ?_⟩
  intro t ht
  exact (ofToken?_eq_some_iff.mp ht).symm

/-- Of the operators in the catalogue only `op` itself is written as it is. -/
theorem filter_token_token (op : Operator) :
    (all.filter fun op' => op'.token == op.token) = [op] := by
  have htest : ∀ op' : Operator, (op'.token == op.token) = (op' == op) := by
    intro op'
    rw [Bool.eq_iff_iff, beq_iff_eq, beq_iff_eq]
    exact ⟨token_injective, congrArg token⟩
  simp only [htest]
  rw [List.filter_beq, List.count_eq_one_of_mem nodup_all (mem_all op)]
  rfl

/-- **Catalogue.** The operators of the catalogue that a text is the token of are the recognised one
and no other. -/
theorem filter_token_eq_toList_ofToken? (t : String) :
    (all.filter fun op => op.token == t) = (ofToken? t).toList := by
  cases hrecognised : ofToken? t with
  | none =>
      have hnone := ofToken?_eq_none_iff.mp hrecognised
      refine List.filter_eq_nil_iff.mpr ?_
      intro op _ htoken
      exact hnone op (beq_iff_eq.mp htoken)
  | some op =>
      obtain rfl := ofToken?_eq_some_iff.mp hrecognised
      exact filter_token_token op

/-! ### Vocabulary -/

/-- **Vocabulary.** The texts that are recognised are the seven tokens. -/
theorem isSome_ofToken?_iff {t : String} :
    (ofToken? t).isSome ↔ t ∈ ["+", "-", "*", "/", "sqrt", "^", "%"] := by
  have htokens : ["+", "-", "*", "/", "sqrt", "^", "%"] = all.map token := rfl
  rw [htokens, List.mem_map, Option.isSome_iff_exists]
  constructor
  · rintro ⟨op, hop⟩
    exact ⟨op, mem_all op, ofToken?_eq_some_iff.mp hop⟩
  · rintro ⟨op, -, rfl⟩
    exact ⟨op, ofToken?_token op⟩

/-! ### Resolution -/

/-- **Resolution.** A text is resolved to an operator iff it is, character for character, what the
operator is written as. A text that is not resolved is refused as it stands. Every operator has one
spelling, no text is that of two operators of the catalogue, and there are no other spellings than
the seven tokens. -/
theorem resolution_exact :
    (∀ (t : String) (op : Operator), ofToken? t = some op ↔ t.toList = op.token.toList) ∧
      (∀ op : Operator, toString op = op.token) ∧
      (∀ (t : String) (op : Operator), parse t = .ok op ↔ ofToken? t = some op) ∧
      (∀ (t : String) (reason : Rejection),
        parse t = .error reason ↔ ofToken? t = none ∧ reason = .unknownOperator t) ∧
      (∀ op : Operator, ∃! t, ofToken? t = some op) ∧
      (∀ t : String, (all.filter fun op => op.token == t) = (ofToken? t).toList) ∧
      ∀ t : String, (ofToken? t).isSome ↔ t ∈ ["+", "-", "*", "/", "sqrt", "^", "%"] := by
  refine ⟨?_, fun _ => rfl, ?_, ?_, existsUnique_ofToken?, filter_token_eq_toList_ofToken?,
    fun _ => isSome_ofToken?_iff⟩
  · intro t op
    rw [ofToken?_eq_some_iff, String.toList_inj, eq_comm]
  · intro t op
    rw [parse_eq_ok_iff, ofToken?_eq_some_iff]
  · intro t reason
    rw [parse_eq_error_iff, ofToken?_eq_none_iff, and_comm]

end ReversePolish.Operator
