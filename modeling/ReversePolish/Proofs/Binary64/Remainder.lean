import Mathlib.Data.Rat.Floor
import Mathlib.Tactic.Positivity
import ReversePolish.Evaluation
import ReversePolish.Proofs.Binary64.Rounding
import ReversePolish.Proofs.Binary64.Value

/-!
# The remainder is that of truncated division

* `truncate` — the whole number next to a rational number on the side of zero.
* **Magnitudes** (`remainder_ofCode`): the remainder of two finite numbers is made from the code of
  the remainder of their units, which is representable, so that nothing is rounded.
* **Values** (`sub_mod_eq`, `abs_mod_lt`): with signs and units, the remainder of whole numbers is
  what truncated division of the rational values leaves.
* **Truncation** (`modulo_truncates`): the operator's result on any two numbers, and on any stack
  that ends in them.
-/

namespace ReversePolish

namespace Binary64

/-- The whole number next to `q` on the side of zero. -/
def truncate (q : ℚ) : ℤ := if 0 ≤ q then ⌊q⌋ else ⌈q⌉

/-! ### Values -/

/-- Truncation does not mind the sign. -/
theorem truncate_signed (negative : Bool) {q : ℚ} (hq : 0 ≤ q) :
    (truncate (signed negative q) : ℚ) = signed negative ⌊q⌋ := by
  cases negative with
  | false => exact congrArg _ (if_pos hq)
  | true =>
      change (truncate (-q) : ℚ) = -⌊q⌋
      unfold truncate
      by_cases h : 0 ≤ -q
      · have hzero : q = 0 := le_antisymm (neg_nonneg.mp h) hq
        rw [hzero, if_pos (by norm_num), neg_zero, Int.floor_zero, Int.cast_zero, neg_zero]
      · rw [if_neg h, Int.ceil_neg, Int.cast_neg]

theorem signed_mul_signed (negative negative' : Bool) (p q : ℚ) :
    signed negative p * signed negative' q = signed (negative ^^ negative') (p * q) := by
  cases negative <;> cases negative' <;> simp [signed]

theorem signed_div_signed (negative negative' : Bool) (p q : ℚ) :
    signed negative p / signed negative' q = signed (negative ^^ negative') (p / q) := by
  cases negative <;> cases negative' <;> simp [signed, neg_div, div_neg]

/-- The truncated quotient of two values is the quotient of their units, with both signs. -/
theorem truncate_div_eq (negative negative' : Bool) (m n : ℕ) :
    (truncate (signed negative m * unit / (signed negative' n * unit)) : ℚ) =
      signed (negative ^^ negative') (m / n : ℕ) := by
  have hfloor : ⌊(m : ℚ) / n⌋ = ((m / n : ℕ) : ℤ) := Rat.floor_natCast_div_natCast m n
  rw [mul_div_mul_right _ _ unit_pos.ne', signed_div_signed, truncate_signed _ (by positivity),
    hfloor, Int.cast_natCast]

/-- **Values.** What is taken away to leave the remainder is the truncated quotient times the
divisor. -/
theorem sub_mod_eq (negative negative' : Bool) (m n : ℕ) :
    signed negative m * unit - signed negative (m % n : ℕ) * unit =
      truncate (signed negative m * unit / (signed negative' n * unit)) *
        (signed negative' n * unit) := by
  have hsplit : (m : ℚ) - (m % n : ℕ) = (m / n : ℕ) * n := by
    have hdivision : ((m / n * n + m % n : ℕ) : ℚ) = m := congrArg _ (Nat.div_add_mod' m n)
    rw [← hdivision, Nat.cast_add, Nat.cast_mul]
    ring
  have hsign : ((negative ^^ negative') ^^ negative') = negative := by
    rw [Bool.xor_assoc, Bool.xor_self, Bool.xor_false]
  rw [truncate_div_eq, ← sub_mul, signed_sub, hsplit, ← mul_assoc, signed_mul_signed, hsign]

/-- The remainder is nearer to zero than the divisor. -/
theorem abs_mod_lt (negative negative' : Bool) (m : ℕ) {n : ℕ} (hn : n ≠ 0) :
    |signed negative (m % n : ℕ) * unit| < |signed negative' n * unit| := by
  have hlt : ((m % n : ℕ) : ℚ) < n := by exact_mod_cast Nat.mod_lt m (Nat.pos_of_ne_zero hn)
  rw [abs_mul, abs_mul, abs_signed, abs_signed, Nat.abs_cast, Nat.abs_cast]
  exact mul_lt_mul_of_pos_right hlt (abs_pos.mpr unit_pos.ne')

/-! ### Magnitudes -/

variable {negative negative' : Bool} {a b : ℕ}

/-- **Magnitudes.** The remainder of two finite numbers has the sign of the first and the code of the
remainder of their units. -/
theorem remainder_ofCode (ha : a < infinityCode) (hb : b < infinityCode) (hne : units b ≠ 0) :
    ∃ c < infinityCode, units c = units a % units b ∧
      remainder (ofCode negative a) (ofCode negative' b) = ofCode negative c := by
  obtain ⟨c, hc, hunits⟩ := exists_code_mod ha hb hne
  have hnearest : nearestCode (units a % units b) 1 = c := by
    have hexact : nearestCode (units c * 1) 1 = c := nearestCode_units_mul hc Nat.one_pos
    rwa [Nat.mul_one, hunits] at hexact
  refine ⟨c, hc, hunits, ?_⟩
  unfold remainder
  rw [datum_ofCode ha, datum_ofCode hb]
  simp only [hne, if_false, nearest, hnearest]

variable {l r : Float} {m : ℕ}

/-- There is no remainder by zero. -/
theorem remainder_zero (hl : datum l = .finite negative m) (hr : datum r = .finite negative' 0) :
    remainder l r = nan := by
  unfold remainder
  rw [hl, hr]
  exact if_pos rfl

/-- A finite number is its own remainder by an infinite one. -/
theorem remainder_infinite (hl : datum l = .finite negative m)
    (hr : datum r = .infinite negative') : remainder l r = l := by
  unfold remainder
  rw [hl, hr]

/-- There is no remainder of an infinity. -/
theorem infinite_remainder (hl : datum l = .infinite negative) (r : Float) :
    remainder l r = nan := by
  unfold remainder
  rw [hl]

/-- There is no remainder of what is no number. -/
theorem nan_remainder (hl : datum l = .nan) (r : Float) : remainder l r = nan := by
  unfold remainder
  rw [hl]

/-- There is no remainder by what is no number. -/
theorem remainder_nan (l : Float) (hr : datum r = .nan) : remainder l r = nan := by
  unfold remainder
  rw [hr]
  cases datum l <;> rfl

/-- What has the value zero has no units. -/
theorem units_eq_zero_iff {q : ℚ} (hq : q = signed negative (units b) * unit) :
    q = 0 ↔ units b = 0 := by
  rw [hq, ← abs_eq_zero, abs_mul, abs_signed, mul_eq_zero, abs_eq_zero, abs_eq_zero,
    Nat.cast_eq_zero, or_iff_left unit_pos.ne']

/-- The remainder of finite numbers in values: it is finite, truncated division leaves it, it is
nearer to zero than the divisor, and its sign bit is that of the first number. -/
theorem toRat?_remainder {p q : ℚ} (hp : toRat? l = some p) (hq : toRat? r = some q)
    (hne : q ≠ 0) :
    ∃ x, toRat? (remainder l r) = some x ∧ p - x = truncate (p / q) * q ∧ |x| < |q| ∧
      isNegative (remainder l r) = isNegative l := by
  obtain ⟨negative, a, ha, rfl, rfl⟩ := exists_code_of_toRat?_eq_some hp
  obtain ⟨negative', b, hb, rfl, hqb⟩ := exists_code_of_toRat?_eq_some hq
  have hunits : units b ≠ 0 := mt (units_eq_zero_iff hqb).mpr hne
  obtain ⟨c, hc, hmod, hremainder⟩ := remainder_ofCode ha hb hunits
  refine ⟨signed negative (units c) * unit, ?_, ?_, ?_, ?_⟩
  · rw [hremainder, toRat?_ofCode hc]
  · rw [hmod, hqb, sub_mod_eq negative negative']
  · rw [hmod, hqb]
    exact abs_mod_lt negative negative' (units a) hunits
  · rw [hremainder, isNegative_ofCode (Nat.le_of_lt hc), isNegative_ofCode (Nat.le_of_lt ha)]

/-- There is no remainder of an infinity, by a zero, or where one of the two is no number. -/
theorem isNaN_remainder
    (h : l.isInf = true ∨ toRat? r = some 0 ∨ l.isNaN = true ∨ r.isNaN = true) :
    (remainder l r).isNaN = true := by
  have hremainder : remainder l r = nan := by
    rcases h with hl | hr | hl | hr
    · obtain ⟨negative, rfl⟩ := exists_infinity_of_isInf hl
      exact infinite_remainder (datum_infinity negative) r
    · obtain ⟨negative', b, hb, rfl, hvalue⟩ := exists_code_of_toRat?_eq_some hr
      have hzero : datum (ofCode negative' b) = .finite negative' 0 := by
        rw [datum_ofCode hb, (units_eq_zero_iff hvalue).mp rfl]
      rcases cases_code l with rfl | ⟨negative, rfl⟩ | ⟨negative, a, ha, rfl⟩
      · exact nan_remainder datum_nan _
      · exact infinite_remainder (datum_infinity negative) _
      · exact remainder_zero (datum_ofCode ha) hzero
    · rw [eq_nan_of_isNaN hl]
      exact nan_remainder datum_nan r
    · rw [eq_nan_of_isNaN hr]
      exact remainder_nan l datum_nan
  rw [hremainder]
  exact kind_nan.1

end Binary64

namespace Operator

open Binary64

/-- **Truncation.** The modulo of two numbers is the exact remainder of truncated division, with the
sign of the dividend: of the finite values `p` and `q ≠ 0` it leaves `p` less `q` as often as `p / q`
says when cut at the point. By an infinity a finite number is left as it is; of an infinity, by a
zero and without a number there is no remainder. On a stack, the remainder takes the place of the two
numbers on top. -/
theorem modulo_truncates (l r : Float) :
    ∃ x, modulo.value? [l, r] = some x ∧
      (∀ p q, toRat? l = some p → toRat? r = some q → q ≠ 0 →
        ∃ rest, toRat? x = some rest ∧ p - rest = truncate (p / q) * q ∧ |rest| < |q| ∧
          isNegative x = isNegative l) ∧
      (l.isFinite = true → r.isInf = true → x = l) ∧
      (l.isInf = true ∨ toRat? r = some 0 ∨ l.isNaN = true ∨ r.isNaN = true → x.isNaN = true) ∧
      ∀ base : Stack, (Call.token "%").run (base ++ [l, r]) =
        ⟨base ++ [x], .applied modulo [l, r] x⟩ := by
  refine ⟨remainder l r, rfl, ?_, ?_, isNaN_remainder, ?_⟩
  · intro p q hp hq hne
    exact toRat?_remainder hp hq hne
  · intro hl hr
    obtain ⟨negative, a, ha, rfl⟩ := exists_code_of_isFinite hl
    obtain ⟨negative', rfl⟩ := exists_infinity_of_isInf hr
    exact remainder_infinite (datum_ofCode ha) (datum_infinity negative')
  · intro base
    exact Call.run_append base (Call.resolve_token modulo) rfl

/-- `-7` by `3`, by infinity and by the negative zero. -/
theorem modulo_truncates_negative_dividend :
    (toRat? (-7) = some (-7) ∧ toRat? 3 = some 3 ∧ ∃ x, modulo.value? [-7, 3] = some x ∧
      ∃ rest, toRat? x = some rest ∧ -7 - rest = truncate (-7 / 3) * 3 ∧ |rest| < |(3 : ℚ)| ∧
        isNegative x = isNegative (-7)) ∧
    modulo.value? [-7, infinity false] = some (-7) ∧
    toRat? (-0) = some 0 ∧ ∃ x, modulo.value? [-7, -0] = some x ∧ x.isNaN = true := by
  have hl : toRat? (-7) = some (-7) := by decide +kernel
  have hr : toRat? 3 = some 3 := by decide +kernel
  have hzero : toRat? (-0) = some 0 := by decide +kernel
  obtain ⟨x, hx, hfinite, -⟩ := modulo_truncates (-7) 3
  obtain ⟨y, hy, -, hinfinite, -⟩ := modulo_truncates (-7) (infinity false)
  obtain ⟨z, hz, -, -, hnone, -⟩ := modulo_truncates (-7) (-0)
  have hy7 : y = -7 := hinfinite (by decide +kernel) (kind_infinity false).1
  rw [hy7] at hy
  exact ⟨⟨hl, hr, x, hx, hfinite (-7) 3 hl hr (by norm_num)⟩, hy, hzero, z, hz,
    hnone (.inr (.inl hzero))⟩

end Operator

end ReversePolish
