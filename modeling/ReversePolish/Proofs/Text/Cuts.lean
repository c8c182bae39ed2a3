import Mathlib.Data.List.TakeWhile
import ReversePolish.Text.Space

/-!
# Where a text is cut

* **Cuts** (`takeWhile_append_cons`, `dropWhile_append_cons`): a text is cut before the first
  character that fails a test, so the parts on both sides can be told (`append_cons_inj`).
* **Words** (`words_intercalate`): pieces without white space, written with single spaces between
  them, are the words of the text.
-/

namespace ReversePolish.Text

variable {test : Char → Bool} {text text' word rest rest' : List Char} {c c' : Char}
  {pieces : List (List Char)}

/-! ### Cuts -/

/-- Characters that pass a test are cut off before the first one that does not. -/
theorem takeWhile_append_cons (htext : ∀ c ∈ text, test c = true) (hc : test c = false) :
    (text ++ c :: rest).takeWhile test = text := by
  rw [List.takeWhile_append_of_pos htext, List.takeWhile_cons_of_neg (by simp [hc]),
    List.append_nil]

/-- What is left is that character and what follows it. -/
theorem dropWhile_append_cons (htext : ∀ c ∈ text, test c = true) (hc : test c = false) :
    (text ++ c :: rest).dropWhile test = c :: rest := by
  rw [List.dropWhile_append_of_pos htext, List.dropWhile_cons_of_neg (by simp [hc])]

/-- A piece without white space is the one word of its text. -/
theorem words_of_isSpace_eq_false (hne : word ≠ []) (hsolid : ∀ c ∈ word, isSpace c = false) :
    words word = [word] := by
  unfold words
  rw [List.splitOnP_eq_singleton hsolid]
  simp [hne]

/-- White space ends a word. -/
theorem words_append_cons (hne : word ≠ []) (hsolid : ∀ c ∈ word, isSpace c = false)
    (hc : isSpace c = true) : words (word ++ c :: rest) = word :: words rest := by
  unfold words
  rw [List.splitOnP_append_cons_of_forall_mem hsolid c hc]
  simp [hne]

/-- **Words.** Pieces with single spaces between them are the words of the text. -/
theorem words_intercalate
    (h : ∀ piece ∈ pieces, piece ≠ [] ∧ ∀ c ∈ piece, isSpace c = false) :
    words ([' '].intercalate pieces) = pieces := by
  induction pieces with
  | nil => rfl
  | cons piece pieces ih =>
      obtain ⟨hne, hsolid⟩ := h piece List.mem_cons_self
      have hrest : words ([' '].intercalate pieces) = pieces :=
        ih fun p hp => h p (List.mem_cons_of_mem _ hp)
      cases pieces with
      | nil =>
          rw [List.intercalate_singleton]
          exact words_of_isSpace_eq_false hne hsolid
      | cons next pieces =>
          rw [List.intercalate_cons_cons, List.append_assoc, List.singleton_append,
            words_append_cons hne hsolid (by decide), hrest]

end ReversePolish.Text
