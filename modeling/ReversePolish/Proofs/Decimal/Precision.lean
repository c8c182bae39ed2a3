import ReversePolish.Proofs.Decimal.Layout

/-!
# The significant digits of a decimal number

* **Significant digits** (`precision_le_iff`): a decimal has at most `n` of them iff its number is a
  whole number of at most `n` digits times a power of ten. So their number does not depend on how the
  number is written, nor on its size (`precision_eq_of_toRat_eq_mul`).
* **Whole numbers** (`exists_toRat_eq_natCast_iff`): a decimal is one iff trimming it leaves no
  negative exponent, the trimmed exponent being the greatest there is (`le_trim_exponent`).
-/

namespace ReversePolish.Decimal

variable {d d' : Decimal} {n : ℕ}

/-- A power of ten may stand in the coefficient as well as in the exponent. -/
theorem natCast_mul_zpow_add (c k : ℕ) (e : ℤ) :
    (c : ℚ) * 10 ^ (e + k) = (c * 10 ^ k : ℕ) * 10 ^ e := by
  rw [zpow_add₀ (by norm_num), zpow_natCast]
  push_cast
  ring

/-- Every decimal has a significant digit. -/
theorem precision_pos (d : Decimal) : 0 < d.precision :=
  List.length_pos_iff.mpr Nat.toDigits_ne_nil

/-- The significant digits are those of the trimmed coefficient. -/
theorem precision_le_iff_trim (hn : 0 < n) : d.precision ≤ n ↔ d.trim.coefficient < 10 ^ n :=
  Nat.length_toDigits_le_iff (by decide) hn

/-- A trimmed exponent is the greatest with which a whole number makes the number. -/
theorem le_trim_exponent {c : ℕ} {e : ℤ} (hd : 0 < d.coefficient) (h : d.toRat = c * 10 ^ e) :
    e ≤ d.trim.exponent := by
  have hten : d.trim.coefficient % 10 ≠ 0 := trim_coefficient_mod_ten d hd
  have hvalue : (d.trim.coefficient : ℚ) * 10 ^ d.trim.exponent = c * 10 ^ e :=
    (toRat_trim d).trans h
  by_contra hlt
  obtain ⟨k, hk⟩ := Int.lt.dest (Int.lt_of_not_ge hlt)
  -- a higher exponent would have left a zero at the end
  rw [← hk, natCast_mul_zpow_add] at hvalue
  have hc : d.trim.coefficient = c * 10 ^ (k + 1) := by
    exact_mod_cast mul_right_cancel₀ (zpow_ne_zero _ (by norm_num)) hvalue
  rw [hc, pow_succ, ← mul_assoc, Nat.mul_mod_left] at hten
  exact hten rfl

/-- A trimmed coefficient is the least whole number that makes the number with a power of ten. -/
theorem trim_coefficient_le {c : ℕ} {e : ℤ} (h : d.toRat = c * 10 ^ e) : d.trim.coefficient ≤ c := by
  rcases Nat.eq_zero_or_pos d.coefficient with hzero | hpos
  · unfold trim
    rw [dif_pos hzero]
    exact Nat.zero_le c
  · obtain ⟨k, hk⟩ := Int.le.dest (le_trim_exponent hpos h)
    have hvalue := (toRat_trim d).trans h
    rw [toRat, ← hk, natCast_mul_zpow_add] at hvalue
    have hc : d.trim.coefficient * 10 ^ k = c := by
      exact_mod_cast mul_right_cancel₀ (zpow_ne_zero e (by norm_num)) hvalue
    rw [← hc]
    exact Nat.le_mul_of_pos_right _ (Nat.pow_pos (by decide))

/-- A decimal is a whole number iff nothing is left behind the point when it is trimmed. -/
theorem exists_toRat_eq_natCast_iff : (∃ n : ℕ, d.toRat = n) ↔ 0 ≤ d.trim.exponent := by
  constructor
  · rintro ⟨n, hn⟩
    rcases Nat.eq_zero_or_pos d.coefficient with hzero | hpos
    · unfold trim
      rw [dif_pos hzero]
    · exact le_trim_exponent hpos (by rw [hn, zpow_zero, mul_one])
  · intro hexponent
    obtain ⟨k, hk⟩ := Int.eq_ofNat_of_zero_le hexponent
    refine ⟨d.trim.coefficient * 10 ^ k, ?_⟩
    rw [← toRat_trim, toRat, hk, zpow_natCast]
    push_cast
    rfl

/-- **Significant digits.** A decimal has at most `n` of them iff its number is a whole number of at
most `n` digits times a power of ten. -/
theorem precision_le_iff (hn : 0 < n) :
    d.precision ≤ n ↔ ∃ (c : ℕ) (e : ℤ), c < 10 ^ n ∧ d.toRat = c * 10 ^ e := by
  rw [precision_le_iff_trim hn]
  constructor
  · intro h
    exact ⟨_, _, h, (toRat_trim d).symm⟩
  · rintro ⟨c, e, hc, hvalue⟩
    exact (trim_coefficient_le hvalue).trans_lt hc

/-- A whole number has its leading digit at the place that the number of its digits says. -/
theorem pow_length_toDigits_bounds {m : ℕ} (hm : 0 < m) :
    10 ^ ((Nat.toDigits 10 m).length - 1) ≤ m ∧ m < 10 ^ ((Nat.toDigits 10 m).length - 1 + 1) := by
  have hpos : 0 < (Nat.toDigits 10 m).length := List.length_pos_iff.mpr Nat.toDigits_ne_nil
  rw [Nat.sub_add_cancel hpos]
  refine ⟨?_, (Nat.length_toDigits_le_iff (by decide) hpos).mp le_rfl⟩
  rcases Nat.eq_zero_or_pos ((Nat.toDigits 10 m).length - 1) with hzero | hmore
  · rw [hzero]
    exact hm
  · by_contra hlt
    have hle := (Nat.length_toDigits_le_iff (by decide) hmore).mpr (Nat.lt_of_not_le hlt)
    omega

/-- A power of ten does not change the number of significant digits. -/
theorem precision_eq_of_toRat_eq_mul {k : ℤ} (h : d.toRat = d'.toRat * 10 ^ k) :
    d.precision = d'.precision := by
  have hle : ∀ {d d' : Decimal} {k : ℤ}, d.toRat = d'.toRat * 10 ^ k →
      d.precision ≤ d'.precision := by
    intro d d' k h
    obtain ⟨c, e, hc, hvalue⟩ := (precision_le_iff d'.precision_pos).mp le_rfl
    refine (precision_le_iff d'.precision_pos).mpr ⟨c, e + k, hc, ?_⟩
    rw [h, hvalue, zpow_add₀ (by norm_num), mul_assoc]
  have hback : d'.toRat = d.toRat * 10 ^ (-k) := by
    rw [h, mul_assoc, ← zpow_add₀ (by norm_num), add_neg_cancel, zpow_zero, mul_one]
  exact (hle h).antisymm (hle hback)

end ReversePolish.Decimal
