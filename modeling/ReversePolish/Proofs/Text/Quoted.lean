import Mathlib.Tactic.IntervalCases
import ReversePolish.Text.Quoted

/-!
# A quoted text is read back up to its closing quote

* **Code points** (`scan_toDigits`): the digits of a code point are read as it.
* **Characters** (`scan_escaped`): what a character is written as is read as that character, whichever
  characters beyond ASCII are written by code point.
* **Texts** (`decode?_encode_append`): a quoted text is read as that text, and the reader stops at the
  quote that closes it, whatever stands behind. So the quoted form tells where it ends.
* **Between the quotes** (`shows_of_mem_flatMap_escaped`, `endsInEscape_of_flatMap_escaped_eq`): no
  ASCII control stands there, and every quote there is escaped by the backslash before it.
-/

namespace ReversePolish.Text.Quoted

variable {hidden : Char → Bool} {c m : Char} {value digit : ℕ} {rest : List Char}

/-! ### Code points -/

/-- The digits in base sixteen are read as their values. -/
theorem hexDigit?_digitChar (h : digit < 16) : hexDigit? digit.digitChar = some digit := by
  interval_cases digit <;> rfl

/-- A digit continues a code point. -/
theorem scan_digit (hdigit : hexDigit? c = some digit) :
    scan (.digits value) (c :: rest) = scan (.digits (16 * value + digit)) rest := by
  have hbrace : c ≠ '}' := by
    rintro rfl
    cases hdigit
  rw [scan, hdigit]
  · rfl
  · exact hbrace

/-- What holds of one digit, and of a number with a digit more when it holds of the number, holds of
the digits of every number in base sixteen. -/
theorem toDigits_induction {motive : ℕ → List Char → Prop}
    (single : ∀ digit < 16, motive digit [digit.digitChar])
    (more : ∀ n, ∀ digit < 16, motive n (Nat.toDigits 16 n) →
      motive (16 * n + digit) (Nat.toDigits 16 n ++ [digit.digitChar]))
    (n : ℕ) : motive n (Nat.toDigits 16 n) := by
  induction n using Nat.strong_induction_on with
  | _ n ih =>
      rcases Nat.lt_or_ge n 16 with hless | hmore
      · rw [Nat.toDigits_of_lt_base hless]
        exact single n hless
      · have hlast := more (n / 16) (n % 16) (Nat.mod_lt n (by decide))
          (ih (n / 16) (Nat.div_lt_self (by omega) (by decide)))
        rwa [Nat.div_add_mod, ← Nat.toDigits_of_base_le (by decide) hmore] at hlast

/-- **Code points.** The digits of a number are read as it. -/
theorem scan_toDigits (n : ℕ) (rest : List Char) :
    scan (.digits 0) (Nat.toDigits 16 n ++ rest) = scan (.digits n) rest := by
  refine toDigits_induction
    (motive := fun n digits => ∀ rest, scan (.digits 0) (digits ++ rest) = scan (.digits n) rest)
    ?_ ?_ n rest
  · intro digit hdigit rest
    rw [List.singleton_append, scan_digit (hexDigit?_digitChar hdigit), Nat.mul_zero, Nat.zero_add]
  · intro n digit hdigit ih rest
    rw [List.append_assoc, List.singleton_append, ih, scan_digit (hexDigit?_digitChar hdigit)]

/-- The digits of a number in base sixteen are digits of that base. -/
theorem exists_digitChar_of_mem_toDigits {n : ℕ} (h : c ∈ Nat.toDigits 16 n) :
    ∃ digit < 16, c = digit.digitChar := by
  refine toDigits_induction
    (motive := fun _ digits => c ∈ digits → ∃ digit < 16, c = digit.digitChar) ?_ ?_ n h
  · intro digit hdigit hc
    exact ⟨digit, hdigit, List.mem_singleton.mp hc⟩
  · intro n digit hdigit ih hc
    rcases List.mem_append.mp hc with hearlier | hlast
    · exact ih hearlier
    · exact ⟨digit, hdigit, List.mem_singleton.mp hlast⟩

/-! ### Characters -/

/-- A mark stands for the character it is the mark of, and no mark announces a code point. -/
theorem marked?_of_mark? (h : mark? c = some m) : marked? m = some c ∧ m ≠ 'u' := by
  unfold mark? at h
  split at h <;> cases h <;> exact ⟨rfl, by decide⟩

/-- A quote and a backslash have marks. -/
theorem ne_of_mark?_eq_none (h : mark? c = none) : c ≠ '"' ∧ c ≠ '\\' := by
  constructor
  · rintro rfl
    cases h
  · rintro rfl
    cases h

/-- A character is written as a backslash and its mark, as its code point, or as itself. -/
theorem escaped_cases (hidden : Char → Bool) (c : Char) :
    (∃ m, mark? c = some m ∧ escaped hidden c = ['\\', m]) ∨
    escaped hidden c = '\\' :: 'u' :: '{' :: (Nat.toDigits 16 c.toNat ++ ['}']) ∨
    (mark? c = none ∧ isCoded hidden c = false ∧ escaped hidden c = [c]) := by
  unfold escaped
  cases hmark : mark? c with
  | some m => exact .inl ⟨m, rfl, rfl⟩
  | none =>
      cases hcoded : isCoded hidden c with
      | true => exact .inr (.inl rfl)
      | false => exact .inr (.inr ⟨rfl, rfl, rfl⟩)

/-- **Characters.** What a character is written as is read as that character. -/
theorem scan_escaped (hidden : Char → Bool) (c : Char) (rest : List Char) :
    scan .text (escaped hidden c ++ rest) =
      (scan .text rest).map fun (read, rest) => (c :: read, rest) := by
  rcases escaped_cases hidden c with ⟨m, hmark, hc⟩ | hc | ⟨hmark, -, hc⟩
  · obtain ⟨hmarked, hletter⟩ := marked?_of_mark? hmark
    rw [hc]
    show scan .escape (m :: rest) = _
    rw [scan, hmarked]
    · cases scan .text rest <;> rfl
    · exact hletter
  · rw [hc, List.cons_append, List.cons_append, List.cons_append, List.append_assoc]
    show scan (.digits 0) (Nat.toDigits 16 c.toNat ++ '}' :: rest) = _
    rw [scan_toDigits, scan, Char.ofNat_toNat]
  · obtain ⟨hquote, hbackslash⟩ := ne_of_mark?_eq_none hmark
    rw [hc, List.singleton_append, scan]
    · exact hquote
    · exact hbackslash

/-! ### Texts -/

/-- What stands between the quotes is read up to the closing one. -/
theorem scan_flatMap_escaped (hidden : Char → Bool) (text rest : List Char) :
    scan .text (text.flatMap (escaped hidden) ++ '"' :: rest) = some (text, rest) := by
  induction text with
  | nil => rfl
  | cons c text ih =>
      rw [List.flatMap_cons, List.append_assoc, scan_escaped, ih]
      rfl

/-- **Texts.** A quoted text is read as that text, whatever stands behind it. -/
theorem decode?_encode_append (hidden : Char → Bool) (text rest : List Char) :
    decode? (encode hidden text ++ rest) = some (text, rest) := by
  have hread := scan_flatMap_escaped hidden text rest
  unfold encode
  rw [List.cons_append, List.append_assoc, List.singleton_append]
  exact hread

/-! ### Between the quotes -/

/-- The characters by which a code point is written show, and none of them is a quote. -/
theorem shows_of_mem_code {n : ℕ}
    (h : c ∈ '\\' :: 'u' :: '{' :: (Nat.toDigits 16 n ++ ['}'])) :
    0x20 ≤ c.toNat ∧ c.toNat ≠ 0x7f ∧ c ≠ '"' := by
  simp only [List.mem_cons, List.mem_append, List.not_mem_nil, or_false] at h
  rcases h with rfl | rfl | rfl | hdigit | rfl
  · decide
  · decide
  · decide
  · obtain ⟨digit, hless, rfl⟩ := exists_digitChar_of_mem_toDigits hdigit
    interval_cases digit <;> decide
  · decide

/-- No mark is a control. -/
theorem shows_of_mark? (h : mark? c = some m) : 0x20 ≤ m.toNat ∧ m.toNat ≠ 0x7f := by
  unfold mark? at h
  split at h <;> cases h <;> decide

/-- What a character is written as shows. -/
theorem shows_of_mem_escaped {d : Char} (h : c ∈ escaped hidden d) :
    0x20 ≤ c.toNat ∧ c.toNat ≠ 0x7f := by
  rcases escaped_cases hidden d with ⟨m, hmark, hd⟩ | hd | ⟨-, hcoded, hd⟩
  · rw [hd, List.mem_cons, List.mem_singleton] at h
    rcases h with rfl | rfl
    · decide
    · exact shows_of_mark? hmark
  · rw [hd] at h
    obtain ⟨hlow, hdelete, -⟩ := shows_of_mem_code h
    exact ⟨hlow, hdelete⟩
  · rw [hd, List.mem_singleton] at h
    subst h
    simp only [isCoded, Bool.or_eq_false_iff, decide_eq_false_iff_not, beq_eq_false_iff_ne] at hcoded
    exact ⟨Nat.le_of_not_lt hcoded.1.1, hcoded.1.2⟩

/-- No control stands between the quotes. -/
theorem shows_of_mem_flatMap_escaped {text : List Char} (h : c ∈ text.flatMap (escaped hidden)) :
    0x20 ≤ c.toNat ∧ c.toNat ≠ 0x7f := by
  obtain ⟨d, -, hc⟩ := List.mem_flatMap.mp h
  exact shows_of_mem_escaped hc

/-- Whether a text ends in an escape is told by its last character and by what stands before. -/
theorem endsInEscape_concat (text : List Char) (c : Char) :
    endsInEscape (text ++ [c]) = (c == '\\' && !endsInEscape text) := by
  simp [endsInEscape]

/-- No escape is open behind what a character is written as. -/
theorem endsInEscape_escaped (hidden : Char → Bool) (c : Char) :
    endsInEscape (escaped hidden c) = false := by
  rcases escaped_cases hidden c with ⟨m, -, hc⟩ | hc | ⟨hmark, -, hc⟩
  · rw [hc]
    simp [endsInEscape]
  · rw [hc, ← List.cons_append, ← List.cons_append, ← List.cons_append, endsInEscape_concat]
    rfl
  · rw [hc]
    simp [endsInEscape, (ne_of_mark?_eq_none hmark).2]

/-- What a character is written as has no effect on the escapes behind it. -/
theorem endsInEscape_escaped_append (hidden : Char → Bool) (c : Char) (text : List Char) :
    endsInEscape (escaped hidden c ++ text) = endsInEscape text := by
  have hclosed := endsInEscape_escaped hidden c
  unfold endsInEscape at hclosed ⊢
  rw [List.foldl_append, hclosed]

/-- A quote in what a character is written as is escaped. -/
theorem endsInEscape_of_escaped_eq {before after : List Char}
    (h : escaped hidden c = before ++ '"' :: after) : endsInEscape before = true := by
  have hquote : '"' ∈ escaped hidden c := by simp [h]
  rcases escaped_cases hidden c with ⟨m, -, hc⟩ | hc | ⟨hmark, -, hc⟩
  · rw [hc] at h
    rcases before with _ | ⟨b, before⟩
    · cases h
    · obtain ⟨rfl, hrest⟩ := List.cons.inj h
      obtain ⟨rfl, -⟩ | ⟨-, hnil⟩ := List.append_eq_singleton_iff.mp hrest.symm
      · rfl
      · cases hnil
  · rw [hc] at hquote
    exact absurd rfl (shows_of_mem_code hquote).2.2
  · rw [hc, List.mem_singleton] at hquote
    exact absurd hquote.symm (ne_of_mark?_eq_none hmark).1

/-- **Between the quotes.** Every quote there is escaped by the backslash before it. -/
theorem endsInEscape_of_flatMap_escaped_eq {text before after : List Char}
    (h : text.flatMap (escaped hidden) = before ++ '"' :: after) : endsInEscape before = true := by
  induction text generalizing before with
  | nil => cases before <;> cases h
  | cons c text ih =>
      rw [List.flatMap_cons] at h
      rcases List.append_eq_append_iff.mp h with ⟨middle, rfl, hrest⟩ | ⟨middle, hc, hrest⟩
      · -- the quote stands behind what `c` is written as
        rw [endsInEscape_escaped_append]
        exact ih hrest
      · rcases middle with _ | ⟨quote, middle⟩
        · -- the rest cannot begin with a quote, as nothing would escape it
          have hfirst : endsInEscape [] = true := ih hrest.symm
          cases hfirst
        · obtain ⟨rfl, -⟩ := List.cons.inj hrest
          exact endsInEscape_of_escaped_eq hc

end ReversePolish.Text.Quoted
