import Mathlib.Algebra.Order.Field.Rat
import Mathlib.Tactic.Ring
import ReversePolish.Decimal.Reading
import ReversePolish.Proofs.Text.Cuts

/-!
# Both layouts of a decimal are read back

* **Value** (`toRat_trim`): the zeros moved out of a coefficient leave the number as it is.
* **Digits** (`natural?_toDigits`, `ofDigitChars_places`): the digits of a whole number are read as
  it, with zeros in front of them or not.
* **Characters** (`exists_cons_pointed`, `mem_positional`, `mem_scientific`): a layout begins with a
  digit and holds nothing but digits, a point, a minus sign and the letter `e`.
* **Layouts** (`ofText?_pointed`, `ofText?_positional`, `ofText?_scientific`): the number with a
  power of ten is read as the decimal itself, the number written out as one of the same value, also
  when `.0` marks it as whole (`ofText?_positional_whole`).
-/

namespace ReversePolish

namespace Decimal

variable {d : Decimal} {c : Char} {n r places : Nat}

/-! ### Value -/

/-- **Value.** A trimmed decimal is the same number. -/
theorem toRat_trim (d : Decimal) : d.trim.toRat = d.toRat := by
  fun_induction trim d with
  | case1 d hzero => simp [toRat, hzero]
  | case2 d hne hten ih =>
      have hsplit : d.coefficient = d.coefficient / 10 * 10 := by omega
      have hcast : (d.coefficient : ℚ) = (d.coefficient / 10 : ℕ) * 10 := by exact_mod_cast hsplit
      rw [ih]
      unfold toRat
      rw [hcast, zpow_add₀ (by norm_num), zpow_one]
      ring
  | case3 d hne hten => rfl

/-- A decimal is the ratio of a whole number and a power of ten. -/
theorem toRat_eq_div (d : Decimal) :
    d.toRat = (d.coefficient * 10 ^ d.exponent.toNat : ℕ) / (10 ^ (-d.exponent).toNat : ℕ) := by
  obtain ⟨coefficient, exponent⟩ := d
  unfold toRat
  obtain ⟨k, rfl | rfl⟩ := exponent.eq_nat_or_neg
  · simp
  · simp [div_eq_mul_inv]

/-! ### Digits -/

/-- The digits of a whole number are digits. -/
theorem isDigit_of_mem_toDigits (h : c ∈ Nat.toDigits 10 n) : c.isDigit = true :=
  Nat.isDigit_of_mem_toDigits (by decide) (by decide) h

/-- Zeros before digits are digits as well. -/
theorem isDigit_of_mem_places (h : c ∈ (Nat.toDigits 10 r).leftpad places '0') :
    c.isDigit = true := by
  rcases List.mem_append.mp h with hzero | hdigit
  · rw [List.eq_of_mem_replicate hzero]
    decide
  · exact isDigit_of_mem_toDigits hdigit

/-- A number that fits in some places fills them, with zeros before its digits. -/
theorem length_places (hplaces : 0 < places) (h : r < 10 ^ places) :
    ((Nat.toDigits 10 r).leftpad places '0').length = places := by
  have hle : (Nat.toDigits 10 r).length ≤ places :=
    (Nat.length_toDigits_le_iff (by decide) hplaces).mpr h
  rw [List.length_leftpad, Nat.max_eq_left hle]

/-- **Digits.** The digits in some places continue a number that was read before them. -/
theorem ofDigitChars_places (hplaces : 0 < places) (h : r < 10 ^ places) (n : Nat) :
    Nat.ofDigitChars 10 ((Nat.toDigits 10 r).leftpad places '0') n = n * 10 ^ places + r := by
  have hvalue : Nat.ofDigitChars 10 ((Nat.toDigits 10 r).leftpad places '0') 0 = r := by
    unfold List.leftpad
    rw [Nat.ofDigitChars_append, Nat.ofDigitChars_replicate_zero, Nat.mul_zero,
      Nat.ofDigitChars_ten_toDigits]
  rw [Nat.ofDigitChars_eq_ofDigitChars_zero, length_places hplaces h, hvalue, Nat.mul_comm]

/-- Digits are read as the number that they make. -/
theorem natural?_of_isDigit {text : List Char} (hne : text ≠ [])
    (hdigits : ∀ c ∈ text, c.isDigit = true) :
    natural? text = some (Nat.ofDigitChars 10 text 0) := by
  unfold natural?
  rw [if_pos ⟨hne, List.all_eq_true.mpr hdigits⟩]

/-- **Digits.** The digits of a whole number are read as it. -/
theorem natural?_toDigits (n : Nat) : natural? (Nat.toDigits 10 n) = some n := by
  rw [natural?_of_isDigit Nat.toDigits_ne_nil fun c hc => isDigit_of_mem_toDigits hc,
    Nat.ofDigitChars_ten_toDigits]

/-- The digits of a whole number begin with a digit. -/
theorem exists_cons_toDigits (n : Nat) :
    ∃ c digits, Nat.toDigits 10 n = c :: digits ∧ c.isDigit = true := by
  obtain ⟨c, digits, hdigits⟩ := List.exists_cons_of_ne_nil (Nat.toDigits_ne_nil (n := n) (b := 10))
  exact ⟨c, digits, hdigits, isDigit_of_mem_toDigits (n := n) (by simp [hdigits])⟩

/-- A whole number with its sign is read as it. -/
theorem integer?_signed (n : Int) : integer? (signed n) = some n := by
  cases n with
  | ofNat n =>
      obtain ⟨c, digits, hdigits, hc⟩ := exists_cons_toDigits n
      have hread := natural?_toDigits n
      show integer? (Nat.toDigits 10 n) = some (n : Int)
      rw [hdigits] at hread ⊢
      rw [integer?, hread]
      · rfl
      · rintro t ⟨⟩
        exact absurd hc (by decide)
  | negSucc n =>
      show integer? ('-' :: Nat.toDigits 10 (n + 1)) = some (Int.negSucc n)
      rw [integer?, natural?_toDigits]
      rfl

/-! ### Characters -/

/-- A number with a point begins with a digit. -/
theorem exists_cons_pointed (n places : Nat) :
    ∃ c text, pointed n places = c :: text ∧ c.isDigit = true := by
  obtain ⟨c, digits, hdigits, hc⟩ := exists_cons_toDigits (n / Nat.pow 10 places)
  unfold pointed
  rw [hdigits]
  exact ⟨c, _, rfl, hc⟩

/-- A number with a point is made of digits and the point. -/
theorem mem_pointed (h : c ∈ pointed n places) : c.isDigit = true ∨ c = '.' := by
  unfold pointed at h
  rcases List.mem_append.mp h with hwhole | hfraction
  · exact .inl (isDigit_of_mem_toDigits hwhole)
  · split at hfraction
    · cases hfraction
    · rcases List.mem_cons.mp hfraction with rfl | hplaces
      · exact .inr rfl
      · exact .inl (isDigit_of_mem_places hplaces)

/-- A number written out begins with a digit. -/
theorem exists_cons_positional (d : Decimal) :
    ∃ c text, d.positional = c :: text ∧ c.isDigit = true := by
  unfold positional
  split
  · exact exists_cons_pointed _ _
  · exact exists_cons_pointed _ _

/-- A number written out is made of digits and a point. -/
theorem mem_positional (h : c ∈ d.positional) : c.isDigit = true ∨ c = '.' := by
  unfold positional at h
  split at h
  · exact mem_pointed h
  · exact mem_pointed h

/-- A number with a power of ten begins with a digit. -/
theorem exists_cons_scientific (d : Decimal) :
    ∃ c text, d.scientific = c :: text ∧ c.isDigit = true := by
  unfold scientific
  simp only
  generalize (Nat.toDigits 10 d.coefficient).length - 1 = places
  obtain ⟨c, text, htext, hc⟩ := exists_cons_pointed d.coefficient places
  rw [htext]
  exact ⟨c, _, rfl, hc⟩

/-- A number with a power of ten is made of digits, a point, the letter `e` and a minus sign. -/
theorem mem_scientific (h : c ∈ d.scientific) :
    c.isDigit = true ∨ c = '.' ∨ c = 'e' ∨ c = '-' := by
  unfold scientific signed at h
  rcases List.mem_append.mp h with hpointed | hpower
  · rcases mem_pointed hpointed with hdigit | rfl
    · exact .inl hdigit
    · exact .inr (.inl rfl)
  · rcases List.mem_cons.mp hpower with rfl | hpower
    · exact .inr (.inr (.inl rfl))
    · split at hpower
      · exact .inl (isDigit_of_mem_toDigits hpower)
      · rcases List.mem_cons.mp hpower with rfl | hdigit
        · exact .inr (.inr (.inr rfl))
        · exact .inl (isDigit_of_mem_toDigits hdigit)

/-! ### Layouts -/

/-- Digits and what stands behind them are read as all the digits together. -/
theorem ofPointed?_append {whole rest fraction : List Char} (hwhole : whole ≠ [])
    (hdigits : ∀ c ∈ whole ++ fraction, c.isDigit = true)
    (hrest : ∀ c ∈ rest.head?, c.isDigit = false) (hfraction : fraction? rest = some fraction) :
    ofPointed? (whole ++ rest) =
      some ⟨Nat.ofDigitChars 10 (whole ++ fraction) 0, -fraction.length⟩ := by
  have hfirst : ∀ c ∈ whole, c.isDigit = true :=
    fun c hc => hdigits c (List.mem_append_left _ hc)
  have hcut : (whole ++ rest).takeWhile Char.isDigit = whole ∧
      (whole ++ rest).dropWhile Char.isDigit = rest := by
    cases rest with
    | nil =>
        rw [List.append_nil]
        exact ⟨List.takeWhile_eq_self_iff.mpr hfirst, List.dropWhile_eq_nil_iff.mpr hfirst⟩
    | cons c rest =>
        have hc : c.isDigit = false := hrest c rfl
        exact ⟨Text.takeWhile_append_cons hfirst hc, Text.dropWhile_append_cons hfirst hc⟩
  have hread := natural?_of_isDigit (by simp [hwhole]) hdigits
  unfold ofPointed?
  simp only [hcut.1, hcut.2, hfraction, Option.bind_eq_bind, Option.bind_some, hread, if_neg hwhole]

/-- A number with a point is read as its digits over a power of ten. -/
theorem ofPointed?_pointed (n places : Nat) :
    ofPointed? (pointed n places) = some ⟨n, -places⟩ := by
  unfold pointed
  by_cases hplaces : places = 0
  · subst hplaces
    have hdigits : ∀ c ∈ Nat.toDigits 10 n ++ [], c.isDigit = true := by
      intro c hc
      exact isDigit_of_mem_toDigits (by rwa [List.append_nil] at hc)
    have hread : ofPointed? (Nat.toDigits 10 n ++ []) = _ :=
      ofPointed?_append Nat.toDigits_ne_nil hdigits (by simp) rfl
    simpa using hread
  · have hpos : 0 < places := Nat.pos_of_ne_zero hplaces
    have hr : n % 10 ^ places < 10 ^ places := Nat.mod_lt _ (Nat.pow_pos (by decide))
    have hlength := length_places hpos hr
    have hvalue := ofDigitChars_places hpos hr (n / 10 ^ places)
    rw [if_neg hplaces, Nat.pow_eq]
    generalize hfraction : (Nat.toDigits 10 (n % 10 ^ places)).leftpad places '0' = fraction at *
    have hdigits : ∀ c ∈ Nat.toDigits 10 (n / 10 ^ places) ++ fraction, c.isDigit = true := by
      intro c hc
      rcases List.mem_append.mp hc with hc | hc
      · exact isDigit_of_mem_toDigits hc
      · exact isDigit_of_mem_places (hfraction ▸ hc)
    have hrest : fraction? ('.' :: fraction) = some fraction := by
      obtain ⟨c, digits, rfl⟩ := List.exists_cons_of_length_pos (hlength ▸ hpos)
      rfl
    rw [ofPointed?_append Nat.toDigits_ne_nil hdigits (by simp) hrest, hlength,
      Nat.ofDigitChars_append, Nat.ofDigitChars_ten_toDigits, hvalue, Nat.mul_comm,
      Nat.div_add_mod]

/-- A number with a point holds no letter `e`. -/
theorem ne_exponentMark_of_mem_pointed (h : c ∈ pointed n places) : (c != 'e') = true := by
  rcases mem_pointed h with hdigit | rfl
  · refine bne_iff_ne.mpr ?_
    rintro rfl
    exact absurd hdigit (by decide)
  · decide

/-- **Layouts.** A number with a point is read as its digits over a power of ten. -/
theorem ofText?_pointed (n places : Nat) : ofText? (pointed n places) = some ⟨n, -places⟩ := by
  have htake : (pointed n places).takeWhile (· != 'e') = pointed n places :=
    List.takeWhile_eq_self_iff.mpr fun c hc => ne_exponentMark_of_mem_pointed hc
  have hdrop : (pointed n places).dropWhile (· != 'e') = [] :=
    List.dropWhile_eq_nil_iff.mpr fun c hc => ne_exponentMark_of_mem_pointed hc
  unfold ofText?
  simp only [htake, hdrop, ofPointed?_pointed, Option.bind_eq_bind, Option.bind_some]

/-- **Layouts.** A number with a power of ten is read as it. -/
theorem ofText?_scientific (d : Decimal) : ofText? d.scientific = some d := by
  unfold scientific
  generalize hplaces : (Nat.toDigits 10 d.coefficient).length - 1 = places
  have hmark : ∀ c ∈ pointed d.coefficient places, (c != 'e') = true :=
    fun c hc => ne_exponentMark_of_mem_pointed hc
  unfold ofText?
  rw [Text.takeWhile_append_cons hmark (by decide), Text.dropWhile_append_cons hmark (by decide),
    ofPointed?_pointed]
  simp only [Option.bind_eq_bind, Option.bind_some, integer?_signed, Option.map_some]
  rw [Int.add_comm d.exponent, Int.neg_add_cancel_left]

/-- **Layouts.** A number written out is read as one of the same value. -/
theorem ofText?_positional (d : Decimal) :
    ∃ d', ofText? d.positional = some d' ∧ d'.toRat = d.toRat := by
  unfold positional
  split
  · next hwhole =>
      refine ⟨_, ofText?_pointed _ _, ?_⟩
      rw [toRat_eq_div d, Int.toNat_of_nonpos (by omega : -d.exponent ≤ 0)]
      simp [toRat]
  · next hfraction =>
      refine ⟨_, ofText?_pointed _ _, ?_⟩
      unfold toRat
      rw [Int.toNat_of_nonneg (by omega), Int.neg_neg]

/-- **Layouts.** The same holds when `.0` marks a number written out as whole. -/
theorem ofText?_positional_whole (h : 0 ≤ d.exponent) :
    ∃ d', ofText? (d.positional ++ ['.', '0']) = some d' ∧ d'.toRat = d.toRat := by
  have hmark : ∀ n, pointed n 0 ++ ['.', '0'] = pointed (n * 10) 1 := by
    intro n
    simp [pointed, List.leftpad]
  unfold positional
  rw [if_pos h, hmark]
  refine ⟨_, ofText?_pointed _ _, ?_⟩
  rw [toRat_eq_div d, Int.toNat_of_nonpos (by omega : -d.exponent ≤ 0)]
  simp [toRat]

end Decimal

end ReversePolish
