import Mathlib.Algebra.Order.Ring.Nat
import Mathlib.Tactic.Ring
import ReversePolish.Binary64.Nearest

/-!
# Rounding to the nearest binary64 magnitude

* **Ratios** (`nearestCode_congr`): the rounding depends on the value of a ratio and not on how the
  ratio is written.
* `significand` — the significand of a code, so that a code stands for `significand * 2 ^ e` units
  with the exponent `e` that its upper bits give (`units_eq`).
* **Exactness** (`nearestCode_units_mul`): a finite magnitude is its own rounding.
* **Representable magnitudes** (`exists_code`): every significand of 53 binary digits has a code at
  every exponent up to the greatest, and so has the remainder of one magnitude by another
  (`exists_code_mod`).
-/

namespace ReversePolish.Binary64

variable {c d e r num den k : Nat}

/-! ### Ratios -/

/-- A whole number is its own rounding. -/
theorem roundHalfEven_mul (k : Nat) (hd : 0 < d) : roundHalfEven (k * d) d = k := by
  unfold roundHalfEven
  rw [Nat.mul_div_cancel k hd, Nat.mul_mod_left]
  simp only [Nat.mul_zero, hd, if_true]

/-- A factor of both sides of a ratio does not change its rounding to a whole number. -/
theorem roundHalfEven_mul_mul (hk : 0 < k) :
    roundHalfEven (num * k) (den * k) = roundHalfEven num den := by
  have htwice : 2 * (num % den * k) = 2 * (num % den) * k := (Nat.mul_assoc _ _ _).symm
  unfold roundHalfEven
  simp only [Nat.mul_div_mul_right _ _ hk, Nat.mul_mod_mul_right, htwice, Nat.mul_lt_mul_right hk]

/-- A factor of both sides of a ratio does not change its nearest code. -/
theorem nearestCode_mul_mul (hk : 0 < k) :
    nearestCode (num * k) (den * k) = nearestCode num den := by
  have hshift : (den * k) <<< spacing (num / den) = (den <<< spacing (num / den)) * k := by
    rw [Nat.shiftLeft_eq, Nat.shiftLeft_eq, Nat.mul_right_comm]
  unfold nearestCode
  simp only [Nat.mul_div_mul_right _ _ hk, hshift, roundHalfEven_mul_mul hk]

/-- Equal ratios have the same nearest code. -/
theorem nearestCode_congr {num' den' : Nat} (hden : 0 < den) (hden' : 0 < den')
    (h : num * den' = num' * den) : nearestCode num den = nearestCode num' den' := by
  rw [← nearestCode_mul_mul hden', h, Nat.mul_comm den den', nearestCode_mul_mul hden]

/-! ### Significands -/

/-- The significand of a code: of 53 binary digits, or fewer for a subnormal number. -/
def significand (c : Nat) : Nat := if c < binade then c else binade + c % binade

theorem significand_lt (c : Nat) : significand c < 2 * binade := by
  unfold significand binade
  split <;> omega

/-- A code stands for its significand at its exponent. -/
theorem units_eq (c : Nat) : units c = significand c * 2 ^ (c / binade - 1) := by
  unfold units significand
  split
  · next h => rw [Nat.div_eq_of_lt h, Nat.zero_sub, Nat.pow_zero, Nat.mul_one]
  · rw [Nat.shiftLeft_eq]

/-- A code is put together from its exponent and its significand. -/
theorem code_eq (c : Nat) : (c / binade - 1) * binade + significand c = c := by
  unfold significand
  split
  · next h => rw [Nat.div_eq_of_lt h, Nat.zero_sub, Nat.zero_mul, Nat.zero_add]
  · next h =>
      unfold binade at h ⊢
      omega

/-- A code is that of its exponent and its significand, also where the significand fills the next
binade. -/
theorem units_add (hr : r ≤ 2 * binade) (hnormal : e = 0 ∨ binade ≤ r) :
    units (e * binade + r) = r * 2 ^ e := by
  unfold units
  by_cases hsmall : r < binade
  · obtain rfl : e = 0 := by omega
    rw [Nat.zero_mul, Nat.zero_add, if_pos hsmall, Nat.pow_zero, Nat.mul_one]
  · rw [if_neg (by unfold binade at *; omega), Nat.shiftLeft_eq]
    by_cases hfull : r = 2 * binade
    · have hexponent : (e * binade + r) / binade - 1 = e + 1 := by
        unfold binade at *
        omega
      have hrest : (e * binade + r) % binade = 0 := by
        unfold binade at *
        omega
      rw [hexponent, hrest, hfull, Nat.pow_succ]
      ring
    · have hexponent : (e * binade + r) / binade - 1 = e := by
        unfold binade at *
        omega
      have hrest : binade + (e * binade + r) % binade = r := by
        unfold binade at *
        omega
      rw [hexponent, hrest]

/-- The exponent of a finite code is at most that of the greatest finite magnitudes. -/
theorem exponent_le (h : c < infinityCode) : c / binade - 1 ≤ 2045 := by
  unfold binade
  unfold infinityCode at h
  omega

/-- Around a magnitude, binary64 numbers are as far apart as its exponent says. -/
theorem spacing_units (c : Nat) : spacing (units c) = c / binade - 1 := by
  unfold spacing
  by_cases hc : c < binade
  · have hunits : units c = c := if_pos hc
    rw [hunits, Nat.div_eq_of_lt hc]
    by_cases hzero : c = 0
    · rw [hzero]
      rfl
    · have hlog : c.log2 < 52 := (Nat.log2_lt hzero).mpr hc
      omega
  · have hsignificand : significand c = binade + c % binade := if_neg hc
    have hpos : 0 < significand c := by
      unfold binade at hsignificand
      omega
    have hlog : (units c).log2 = c / binade - 1 + 52 := by
      have hlt : significand c < 2 * binade := significand_lt c
      have hpow : binade = 2 ^ 52 := rfl
      rw [units_eq, Nat.log2_eq_iff (Nat.mul_pos hpos (Nat.two_pow_pos _)).ne', Nat.pow_add,
        Nat.pow_add, Nat.pow_add]
      constructor
      · rw [Nat.mul_comm]
        exact Nat.mul_le_mul_right _ (by omega)
      · rw [Nat.mul_comm, Nat.mul_assoc]
        exact Nat.mul_lt_mul_of_pos_left (by omega) (Nat.two_pow_pos _)
    rw [hlog, Nat.add_sub_cancel]

/-- **Exactness.** A finite magnitude is its own rounding, however it is written as a ratio. -/
theorem nearestCode_units_mul (h : c < infinityCode) (hd : 0 < d) :
    nearestCode (units c * d) d = c := by
  have hround : roundHalfEven (units c * d) (d <<< (c / binade - 1)) = significand c := by
    have hsplit : units c * d = significand c * (d <<< (c / binade - 1)) := by
      rw [units_eq, Nat.shiftLeft_eq]
      ring
    rw [hsplit]
    apply roundHalfEven_mul
    rw [Nat.shiftLeft_eq]
    exact Nat.mul_pos hd (Nat.two_pow_pos _)
  unfold nearestCode
  dsimp only
  rw [Nat.mul_div_cancel _ hd, spacing_units, hround, code_eq]
  exact Nat.min_eq_left (Nat.le_of_lt h)

/-! ### Representable magnitudes -/

/-- **Representable magnitudes.** A significand below `2 ^ 53` has a code at every exponent up to the
greatest. -/
theorem exists_code {s e : Nat} (hs : s < 2 * binade) (he : e ≤ 2045) :
    ∃ c < infinityCode, units c = s * 2 ^ e := by
  induction e generalizing s with
  | zero =>
      have hunits := units_add hs.le (.inl rfl)
      rw [Nat.zero_mul, Nat.zero_add] at hunits
      refine ⟨s, ?_, hunits⟩
      unfold binade at hs
      unfold infinityCode
      omega
  | succ e ih =>
      by_cases hsmall : s < binade
      · -- a significand with fewer digits is moved up, and the exponent down
        obtain ⟨c, hc, hunits⟩ := ih (s := 2 * s) (by omega) (by omega)
        refine ⟨c, hc, ?_⟩
        rw [hunits, pow_succ]
        ring
      · refine ⟨(e + 1) * binade + s, ?_, units_add hs.le (.inr (Nat.le_of_not_lt hsmall))⟩
        unfold binade at hs ⊢
        unfold infinityCode
        omega

/-- The remainder of one finite magnitude by another is a finite magnitude: at the lower of the two
exponents, it is below one of the two significands. -/
theorem exists_code_mod {a b : Nat} (ha : a < infinityCode) (hb : b < infinityCode)
    (hne : units b ≠ 0) : ∃ c < infinityCode, units c = units a % units b := by
  have hpos : 0 < significand b := by
    apply Nat.pos_of_ne_zero
    intro hzero
    rw [units_eq, hzero, Nat.zero_mul] at hne
    exact hne rfl
  rw [units_eq a, units_eq b]
  rcases Nat.le_total (a / binade - 1) (b / binade - 1) with hle | hle
  · obtain ⟨gap, hgap⟩ := Nat.exists_eq_add_of_le hle
    rw [hgap, pow_add, mul_comm (2 ^ _) (2 ^ gap), ← mul_assoc, Nat.mul_mod_mul_right]
    refine exists_code ?_ (exponent_le ha)
    exact Nat.lt_of_le_of_lt (Nat.mod_le _ _) (significand_lt a)
  · obtain ⟨gap, hgap⟩ := Nat.exists_eq_add_of_le hle
    rw [hgap, pow_add, mul_comm (2 ^ _) (2 ^ gap), ← mul_assoc, Nat.mul_mod_mul_right]
    refine exists_code ?_ (exponent_le hb)
    exact (Nat.mod_lt _ hpos).trans (significand_lt b)

end ReversePolish.Binary64
