import Mathlib.Algebra.Order.Field.Power
import Mathlib.Algebra.Order.Field.Rat
import Mathlib.Tactic.Ring
import ReversePolish.Proofs.Binary64.Encoding

/-!
# The exact value of a number

* `toRat?` — the rational number that a finite number is: the significand times the power of two
  that its encoding holds, with its sign. Infinities and what is no number have no value.
* `unit` — the value of the smallest positive number.
* **Units** (`toRat?_ofCode`): a number made from a sign and a finite code is its units times the
  value of one. So counting units is exact arithmetic.
* **Kinds** (`exists_code_of_toRat?_eq_some`, `exists_infinity_of_isInf`, `eq_nan_of_isNaN`): what
  has a value is made from a finite code; the numbers without one are the two infinities and the one
  that is no number.
-/

namespace ReversePolish.Binary64

open Float.Model (Format UnpackedFloat)
open Float.Model.UnpackedFloat

/-- The exact value of what a number is taken apart into. -/
def unpackedValue? : UnpackedFloat → Option ℚ
  | .zero _ => some 0
  | .finite sign significand exponent _ => some (sign.apply significand * 2 ^ exponent)
  | _ => none

/-- The exact value of a number; none when it is not finite. -/
def toRat? (x : Float) : Option ℚ := unpackedValue? x.toModel.unpack

/-- The value of the smallest positive number. -/
def unit : ℚ := 2 ^ (-1074 : ℤ)

theorem unit_pos : 0 < unit := zpow_pos (by norm_num) _

/-- The value `q` with a sign. -/
def signed (negative : Bool) (q : ℚ) : ℚ := if negative then -q else q

theorem signed_mul (negative : Bool) (p q : ℚ) : signed negative (p * q) = signed negative p * q := by
  cases negative with
  | false => rfl
  | true => exact (neg_mul p q).symm

theorem signed_sub (negative : Bool) (p q : ℚ) :
    signed negative p - signed negative q = signed negative (p - q) := by
  cases negative with
  | false => rfl
  | true =>
      change -p - -q = -(p - q)
      ring

theorem abs_signed (negative : Bool) (q : ℚ) : |signed negative q| = |q| := by
  cases negative with
  | false => rfl
  | true => exact abs_neg q

/-- Whatever their signs, two values are at least as far apart as their magnitudes are. -/
theorem abs_sub_le_abs_signed_sub (negative negative' : Bool) {p q : ℚ} (hp : 0 ≤ p) (hq : 0 ≤ q) :
    |p - q| ≤ |signed negative p - signed negative' q| := by
  have hopposite : |p - q| ≤ |p + q| := abs_le_abs (by linarith) (by linarith)
  cases negative <;> cases negative'
  · exact le_rfl
  · simpa [signed] using hopposite
  · rw [← abs_neg (p + q)] at hopposite
    simpa [signed, add_comm, sub_eq_add_neg] using hopposite
  · rw [signed_sub, abs_signed]

/-! ### Values of fields -/

variable {b : BitVec Format.binary64.numBits}

theorem unpackExponent_eq_ones_iff : unpackExponent b = -1#_ ↔ b.toNat / binade % 2048 = 2047 := by
  rw [← BitVec.toNat_inj, toNat_unpackExponent]
  rfl

theorem unpackExponent_eq_zero_iff : unpackExponent b = 0#_ ↔ b.toNat / binade % 2048 = 0 := by
  rw [← BitVec.toNat_inj, toNat_unpackExponent]
  rfl

/-- The sign field gives its sign to a value. -/
theorem apply_unpackSign (b : BitVec Format.binary64.numBits) (n : ℕ) :
    (((Sign.ofBitVec (unpackSign b)).apply n : ℤ) : ℚ) =
      signed (decide (b.toNat / 0x8000000000000000 % 2 = 1)) n := by
  have hpositive : unpackSign b = 0#1 ↔ b.toNat / 0x8000000000000000 % 2 = 0 := by
    rw [← BitVec.toNat_inj, toNat_unpackSign]
    rfl
  unfold Sign.ofBitVec signed
  by_cases hbit : b.toNat / 0x8000000000000000 % 2 = 0
  · rw [if_pos (hpositive.mpr hbit), hbit]
    rfl
  · have hone : b.toNat / 0x8000000000000000 % 2 = 1 := by omega
    rw [if_neg (mt hpositive.mp hbit), hone]
    exact Int.cast_neg _

/-- Where the exponent field is zero, the significand field counts units. -/
theorem unpackedValue?_of_subnormal (h : b.toNat / binade % 2048 = 0) :
    unpackedValue? (unpack Format.binary64 b) =
      some (signed (decide (b.toNat / 0x8000000000000000 % 2 = 1)) (b.toNat % binade : ℕ) *
        unit) := by
  have hexponent : unpackExponent b = 0#_ := unpackExponent_eq_zero_iff.mpr h
  have hbias : Format.exponentBias Format.binary64 = 1023 := rfl
  have hfinite : unpackExponent b ≠ -1#_ := by
    rw [hexponent]
    decide
  rw [← apply_unpackSign, ← toNat_unpackMantissa]
  unfold unpack unit
  dsimp only
  rw [if_neg hfinite, if_pos hexponent]
  split
  · next hzero =>
      rw [hzero]
      cases Sign.ofBitVec (unpackSign b) <;> simp [unpackedValue?, Sign.apply]
  · next hnonzero =>
      simp only [unpackedValue?, hexponent, hbias]
      norm_num

/-- Where the exponent field is neither zero nor all ones, the significand has a leading one. -/
theorem unpackedValue?_of_normal (hzero : b.toNat / binade % 2048 ≠ 0)
    (hones : b.toNat / binade % 2048 ≠ 2047) :
    unpackedValue? (unpack Format.binary64 b) =
      some (signed (decide (b.toNat / 0x8000000000000000 % 2 = 1))
        (binade + b.toNat % binade : ℕ) * 2 ^ ((b.toNat / binade % 2048 : ℕ) - 1075 : ℤ)) := by
  have hbias : Format.exponentBias Format.binary64 = 1023 := rfl
  have hfull : (1#1 ++ unpackMantissa b).toNat = binade + b.toNat % binade := by
    rw [BitVec.toNat_append, ← Nat.shiftLeft_add_eq_or_of_lt (unpackMantissa b).isLt,
      toNat_unpackMantissa]
    rfl
  rw [← apply_unpackSign]
  unfold unpack
  dsimp only
  rw [if_neg (mt unpackExponent_eq_ones_iff.mp hones),
    if_neg (mt unpackExponent_eq_zero_iff.mp hzero)]
  simp only [unpackedValue?, hfull, toNat_unpackExponent, hbias]
  norm_num

/-! ### Values of codes -/

variable {negative : Bool} {c : ℕ}

/-- **Units.** A number made from a finite code is its units times the value of one. -/
theorem toRat?_ofCode (h : c < infinityCode) :
    toRat? (ofCode negative c) = some (signed negative (units c) * unit) := by
  have hbits : (ofCode negative c).toBits.toBitVec.toNat =
      (if negative then 0x8000000000000000 else 0) + c := toNat_toBits_ofCode (Nat.le_of_lt h)
  have hmax : c / binade < 2047 := by
    unfold binade
    unfold infinityCode at h
    omega
  have hsign : decide ((ofCode negative c).toBits.toBitVec.toNat / 0x8000000000000000 % 2 = 1) =
      negative := by
    rw [hbits]
    unfold infinityCode at h
    cases negative with
    | false => exact decide_eq_false (by simp only [Bool.false_eq_true, if_false]; omega)
    | true => exact decide_eq_true (by simp only [if_true]; omega)
  have hexponent : (ofCode negative c).toBits.toBitVec.toNat / binade % 2048 = c / binade := by
    rw [hbits]
    unfold binade at hmax ⊢
    split <;> omega
  have hfraction : (ofCode negative c).toBits.toBitVec.toNat % binade = c % binade := by
    rw [hbits]
    unfold binade
    split <;> omega
  change unpackedValue? (unpack Format.binary64 (ofCode negative c).toBits.toBitVec) = _
  unfold units
  by_cases hc : c < binade
  · have hzero : c / binade = 0 := Nat.div_eq_of_lt hc
    rw [unpackedValue?_of_subnormal (hexponent.trans hzero), hsign, hfraction,
      Nat.mod_eq_of_lt hc, if_pos hc]
  · have hpos : c / binade ≠ 0 :=
      fun hzero => hc ((Nat.div_eq_zero_iff_lt (by decide)).mp hzero)
    have hsplit : ((c / binade : ℕ) - 1075 : ℤ) = (c / binade - 1 : ℕ) + (-1074 : ℤ) := by omega
    rw [unpackedValue?_of_normal (by rwa [hexponent]) (by rw [hexponent]; omega), hsign,
      hfraction, hexponent, hsplit, zpow_add₀ (by norm_num), zpow_natCast, ← mul_assoc,
      ← signed_mul, if_neg hc, Nat.shiftLeft_eq, Nat.cast_mul, Nat.cast_pow, Nat.cast_ofNat, unit]

/-! ### Kinds -/

/-- What is taken apart into a value is neither an infinity nor no number. -/
theorem kind_of_isSome_unpackedValue? {u : UnpackedFloat} (h : (unpackedValue? u).isSome) :
    u.isFinite = true ∧ u.isInf = false ∧ u.isNaN = false := by
  cases u with
  | infinity _ => cases h
  | notANumber => cases h
  | zero _ => exact ⟨rfl, rfl, rfl⟩
  | finite _ _ _ _ => exact ⟨rfl, rfl, rfl⟩

/-- A number made from a finite code is finite. -/
theorem kind_ofCode (negative : Bool) (h : c < infinityCode) :
    (ofCode negative c).isFinite = true ∧ (ofCode negative c).isInf = false ∧
      (ofCode negative c).isNaN = false :=
  kind_of_isSome_unpackedValue? (Option.isSome_of_eq_some (toRat?_ofCode h))

/-- An infinity is one and has no value. -/
theorem kind_infinity (negative : Bool) :
    (infinity negative).isInf = true ∧ (infinity negative).isFinite = false ∧
      (infinity negative).isNaN = false ∧ toRat? (infinity negative) = none := by
  cases negative <;> decide +kernel

/-- What is no number has no value. -/
theorem kind_nan :
    nan.isNaN = true ∧ nan.isFinite = false ∧ nan.isInf = false ∧ toRat? nan = none := by
  decide +kernel

/-- What has a value is made from a finite code, which counts its units. -/
theorem exists_code_of_toRat?_eq_some {x : Float} {q : ℚ} (h : toRat? x = some q) :
    ∃ negative c, c < infinityCode ∧ x = ofCode negative c ∧ q = signed negative (units c) * unit := by
  rcases cases_code x with rfl | ⟨negative, rfl⟩ | ⟨negative, c, hc, rfl⟩
  · rw [kind_nan.2.2.2] at h
    cases h
  · rw [(kind_infinity negative).2.2.2] at h
    cases h
  · rw [toRat?_ofCode hc] at h
    exact ⟨negative, c, hc, rfl, (Option.some.inj h).symm⟩

/-- What is finite is made from a finite code. -/
theorem exists_code_of_isFinite {x : Float} (h : x.isFinite = true) :
    ∃ negative c, c < infinityCode ∧ x = ofCode negative c := by
  rcases cases_code x with rfl | ⟨negative, rfl⟩ | hcode
  · rw [kind_nan.2.1] at h
    cases h
  · rw [(kind_infinity negative).2.1] at h
    cases h
  · exact hcode

/-- What is infinite is one of the two infinities. -/
theorem exists_infinity_of_isInf {x : Float} (h : x.isInf = true) :
    ∃ negative, x = infinity negative := by
  rcases cases_code x with rfl | hinfinity | ⟨negative, c, hc, rfl⟩
  · rw [kind_nan.2.2.1] at h
    cases h
  · exact hinfinity
  · rw [(kind_ofCode negative hc).2.1] at h
    cases h

/-- What is no number is the one that is none. -/
theorem eq_nan_of_isNaN {x : Float} (h : x.isNaN = true) : x = nan := by
  rcases cases_code x with hnan | ⟨negative, rfl⟩ | ⟨negative, c, hc, rfl⟩
  · exact hnan
  · rw [(kind_infinity negative).2.2.1] at h
    cases h
  · rw [(kind_ofCode negative hc).2.2] at h
    cases h

end ReversePolish.Binary64
