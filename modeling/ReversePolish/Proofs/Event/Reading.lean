import ReversePolish.Event.Reading
import ReversePolish.Operator.Sequence
import ReversePolish.Proofs.Binary64.Numeral
import ReversePolish.Proofs.Event.Parts

/-!
# The text of an event tells what the call did

* **Separators** (`ne_blank_of_mem_token`, `not_mem_numeral`): a token holds no blank, and a numeral
  neither a blank nor a comma nor a bracket, so the marks between the parts of an event stand out.
* **Operands** (`operands?_intercalate`): a list of operands is read as these operands.
* **Applications** (`ofText?_text_applied`): the text of a successful call is read as its operator,
  its operands and its result.
* **Rejections** (`ofText?_text_rejected`): the text of a rejected call is not read as that of a
  successful one, since no operator is written as the word that it begins with.
-/

namespace ReversePolish

open Binary64

/-! ### Separators -/

/-- No token holds a blank. -/
theorem Operator.ne_blank_of_mem_token {op : Operator} {c : Char} (h : c ∈ op.token.toList) :
    (c != ' ') = true := by
  refine bne_iff_ne.mpr ?_
  rintro rfl
  exact absurd (isSpace_of_mem_token h) (by decide)

/-- A mark that separates the parts of an event is in no numeral. -/
theorem Binary64.not_mem_numeral {style : NumeralStyle} {x : Float} {c : Char}
    (h : c.isAlphanum = false) (hpoint : c ≠ '.') (hminus : c ≠ '-') : c ∉ numeral style x := by
  intro hc
  rcases mem_numeral hc with halphanum | rfl | rfl
  · rw [h] at halphanum
    cases halphanum
  · exact hpoint rfl
  · exact hminus rfl

namespace Application

variable {op : Operator} {args : List Float} {x : Float} {style : NumeralStyle}

/-! ### Operands -/

/-- The operands as they are read: each numeral with the blank before it. -/
def items (style : NumeralStyle) (args : List Float) : List (List Char) :=
  args.map fun x => ' ' :: numeral style x

/-- The text of a list of operands between its brackets is their items with commas between them. -/
theorem cons_intercalate_numeral (hargs : args ≠ []) :
    ' ' :: [',', ' '].intercalate (args.map (numeral style)) =
      [','].intercalate (items style args) := by
  induction args with
  | nil => exact absurd rfl hargs
  | cons x args ih =>
      cases args with
      | nil => rfl
      | cons y args =>
          have hrest := ih (List.cons_ne_nil y args)
          simp only [items, List.map_cons, List.intercalate_cons_cons] at hrest ⊢
          rw [← hrest]
          simp

/-- **Operands.** The text of a list of operands is read as these operands. -/
theorem operands?_intercalate (hargs : args ≠ []) :
    operands? ([',', ' '].intercalate (args.map (numeral style))) = some args := by
  have hcomma : ∀ item ∈ items style args, ',' ∉ item := by
    intro item hitem
    obtain ⟨x, -, rfl⟩ := List.mem_map.mp hitem
    rintro (_ | ⟨_, hmem⟩)
    exact not_mem_numeral (by decide) (by decide) (by decide) hmem
  have hitems : items style args ≠ [] := by simpa [items] using hargs
  unfold operands?
  rw [cons_intercalate_numeral hargs, List.splitOn_intercalate ',' hcomma hitems]
  clear hcomma hitems hargs
  induction args with
  | nil => rfl
  | cons x args ih =>
      simp only [items, List.map_cons, List.mapM_cons] at ih ⊢
      rw [ih, ofNumeral?_numeral]
      rfl

/-! ### Applications -/

/-- No closing bracket stands between the brackets of a list of operands. -/
theorem ne_bracket_of_mem_intercalate {c : Char}
    (h : c ∈ [',', ' '].intercalate (args.map (numeral style))) : (c != ']') = true := by
  have hnumeral : ∀ x, ∀ c ∈ numeral style x, (c != ']') = true := by
    intro x c hc
    refine bne_iff_ne.mpr ?_
    rintro rfl
    exact not_mem_numeral (by decide) (by decide) (by decide) hc
  induction args with
  | nil => cases h
  | cons x args ih =>
      cases args with
      | nil => exact hnumeral x c (by simpa using h)
      | cons y args =>
          rw [List.map_cons, List.map_cons, List.intercalate_cons_cons, List.mem_append,
            List.mem_append] at h
          rcases h with (hx | hseparator) | hrest
          · exact hnumeral x c hx
          · rcases List.mem_pair.mp hseparator with rfl | rfl
            · decide
            · decide
          · exact ih hrest

/-- What stands behind the operator of a successful call is read as the operands and the result. -/
theorem ofOperands?_intercalate (hargs : args ≠ []) :
    ofOperands? op (' ' :: '[' ::
      ([',', ' '].intercalate (args.map (numeral Event.operandStyle)) ++
        ']' :: ' ' :: '-' :: '>' :: ' ' :: numeral Event.resultStyle x)) = some ⟨op, args, x⟩ := by
  have hbody : ∀ c ∈ [',', ' '].intercalate (args.map (numeral Event.operandStyle)),
      (c != ']') = true := fun c hc => ne_bracket_of_mem_intercalate hc
  have hread : operands? ([',', ' '].intercalate (args.map (numeral Event.operandStyle))) =
      some args := operands?_intercalate hargs
  simp only [ofOperands?]
  rw [Text.takeWhile_append_cons hbody (by decide), Text.dropWhile_append_cons hbody (by decide),
    hread]
  simp only [Option.bind_eq_bind, Option.bind_some, ofNumeral?_numeral, Option.map_some]

/-- **Applications.** The text of a successful call is read as its operator, its operands and its
result. -/
theorem ofText?_text_applied (hargs : args ≠ []) :
    ofText? (Event.applied op args x).text = some ⟨op, args, x⟩ := by
  have htoken : ∀ c ∈ op.token.toList, (c != ' ') = true :=
    fun c hc => Operator.ne_blank_of_mem_token hc
  unfold ofText?
  simp only [Event.toList_text_applied]
  rw [Text.takeWhile_append_cons htoken (by decide), Text.dropWhile_append_cons htoken (by decide),
    String.ofList_toList, Operator.ofToken?_token]
  exact ofOperands?_intercalate hargs

/-! ### Rejections -/

/-- **Rejections.** The text of a rejected call is that of no successful one. -/
theorem ofText?_text_rejected (reason : Rejection) :
    ofText? (Event.rejected reason).text = none := by
  obtain ⟨rest, hrest⟩ := Event.prefix_text_rejected reason
  have hword : "rejected ".toList = "rejected".toList ++ [' '] := by decide
  have hletters : "rejected".toList.all (· != ' ') = true := by decide
  have hunknown : Operator.ofToken? (.ofList "rejected".toList) = none := by decide
  unfold ofText?
  simp only [← hrest]
  rw [hword, List.append_assoc, List.singleton_append,
    Text.takeWhile_append_cons (List.all_eq_true.mp hletters) (by decide), hunknown]
  rfl

end Application
end ReversePolish
