import ReversePolish.Operator.Sequence
import ReversePolish.Proofs.Text.Cuts

/-!
# Operators written one after another are read back

* **Parsing** (`parseWords_eq_ok_iff`): a text is parsed as operators iff its words are their tokens,
  one after another.
* **Prefix code** (`prefix_token_iff`, `concatenated_injective`): no token begins another, so that
  operators written without anything between them can be told apart from the left.
* **Sequences** (`sequences_readable`): in both ways of writing, the text tells the operators.
-/

namespace ReversePolish

namespace Operator

variable {op op' : Operator} {ops ops' : List Operator} {text : String}

/-! ### Parsing -/

/-- A word is parsed as an operator iff it is the operator's token. -/
theorem parse_ofList_eq_ok_iff {word : List Char} :
    parse (.ofList word) = .ok op ↔ word = op.token.toList := by
  rw [parse_eq_ok_iff, ← String.toList_inj, String.toList_ofList, eq_comm]

/-- Words are parsed from left to right, and all of them must be operators. -/
theorem mapM_parse_cons_eq_ok_iff {word : List Char} {words : List (List Char)} :
    ((word :: words).mapM fun word => parse (.ofList word)) = .ok ops ↔
      ∃ op rest, word = op.token.toList ∧
        (words.mapM fun word => parse (.ofList word)) = .ok rest ∧ ops = op :: rest := by
  rw [List.mapM_cons]
  simp only [← parse_ofList_eq_ok_iff]
  cases parse (.ofList word) with
  | error reason => simp [bind, Except.bind]
  | ok op =>
      cases words.mapM fun word => parse (.ofList word) with
      | error reason => simp [bind, Except.bind]
      | ok rest => simp [bind, Except.bind, pure, Except.pure, eq_comm]

/-- Words are parsed as operators iff they are their tokens. -/
theorem mapM_parse_eq_ok_iff {words : List (List Char)} :
    (words.mapM fun word => parse (.ofList word)) = .ok ops ↔
      words = ops.map fun op => op.token.toList := by
  induction words generalizing ops with
  | nil => cases ops <;> simp [pure, Except.pure]
  | cons word words ih =>
      simp only [mapM_parse_cons_eq_ok_iff, ih]
      constructor
      · rintro ⟨op, rest, rfl, rfl, rfl⟩
        rfl
      · intro h
        obtain ⟨op, rest, rfl, rfl, rfl⟩ := List.map_eq_cons_iff.mp h.symm
        exact ⟨op, rest, rfl, rfl, rfl⟩

/-- **Parsing.** A text is parsed as operators iff its words are their tokens. -/
theorem parseWords_eq_ok_iff :
    parseWords text = .ok ops ↔ Text.words text.toList = ops.map fun op => op.token.toList :=
  mapM_parse_eq_ok_iff

/-- The words of operators with spaces between them are their tokens. -/
theorem words_spaced (ops : List Operator) :
    Text.words (spaced ops).toList = ops.map fun op => op.token.toList := by
  unfold spaced
  rw [String.toList_intercalate, List.map_map]
  refine Text.words_intercalate ?_
  intro piece hpiece
  obtain ⟨op, -, rfl⟩ := List.mem_map.mp hpiece
  exact ⟨op.token_ne_nil, fun c hc => isSpace_of_mem_token hc⟩

/-! ### Prefix code -/

/-- No token begins that of another operator. -/
theorem prefix_token_iff : op.token.toList <+: op'.token.toList ↔ op = op' := by
  constructor
  · rintro ⟨rest, hrest⟩
    rw [← List.append_nil op'.token.toList] at hrest
    exact (token_append_inj hrest).1
  · rintro rfl
    exact List.prefix_rfl

/-- The text of operators without anything between them begins with the first token. -/
theorem toList_concatenated_cons (op : Operator) (ops : List Operator) :
    (concatenated (op :: ops)).toList = op.token.toList ++ (concatenated ops).toList := by
  simp [concatenated]

/-- Only the text of no operators is empty. -/
theorem toList_concatenated_cons_ne_nil (op : Operator) (ops : List Operator) :
    (concatenated (op :: ops)).toList ≠ [] := by
  rw [toList_concatenated_cons]
  exact List.append_ne_nil_of_left_ne_nil op.token_ne_nil _

/-- **Prefix code.** Different operators have different texts without anything between them. -/
theorem concatenated_injective (h : concatenated ops = concatenated ops') : ops = ops' := by
  have hchars : (concatenated ops).toList = (concatenated ops').toList := congrArg String.toList h
  clear h
  induction ops generalizing ops' with
  | nil =>
      cases ops' with
      | nil => rfl
      | cons op' ops' => exact absurd hchars.symm (toList_concatenated_cons_ne_nil op' ops')
  | cons op ops ih =>
      cases ops' with
      | nil => exact absurd hchars (toList_concatenated_cons_ne_nil op ops)
      | cons op' ops' =>
          rw [toList_concatenated_cons, toList_concatenated_cons] at hchars
          obtain ⟨rfl, hrest⟩ := token_append_inj hchars
          rw [ih hrest]

/-! ### Sequences -/

/-- **Sequences.** Operators written with single spaces between them are parsed word by word as the
same operators in the same order. No token begins that of another operator, and operators written
without anything between them are told apart by the text. -/
theorem sequences_readable :
    (∀ ops : List Operator, parseWords (spaced ops) = .ok ops) ∧
      (∀ op op' : Operator, op.token.toList <+: op'.token.toList ↔ op = op') ∧
      ∀ ops ops' : List Operator, concatenated ops = concatenated ops' ↔ ops = ops' := by
  refine ⟨?_, fun _ _ => prefix_token_iff, ?_⟩
  · intro ops
    exact parseWords_eq_ok_iff.mpr (words_spaced ops)
  · intro ops ops'
    exact ⟨concatenated_injective, congrArg concatenated⟩

end Operator

end ReversePolish
