import Mathlib
import ReversePolish.Binary64.Basic

/-!
# Numbers and their encodings

A `Float` is its 64 bits, except that there is a single encoding of no number.

* **Fields** (`toNat_unpackMantissa`, `toNat_unpackExponent`, `toNat_unpackSign`): what the three
  fields of an encoding are as numbers.
* **Bits** (`toBits_ofBits`): a number made from bits that do not encode no number has these bits.
* **Parts** (`code_ofCode`, `isNegative_ofCode`): a number made from a sign and a code up to that of
  infinity has just these.
* **Kinds** (`cases_code`): a number is no number, or an infinity, or it is made from a sign and a
  finite code; `datum` says which (`datum_nan`, `datum_infinity`, `datum_ofCode`).
-/

namespace ReversePolish.Binary64

open Float.Model (Format)
open Float.Model.UnpackedFloat

/-! ### The three fields -/

variable {b : BitVec Format.binary64.numBits}

/-- The significand field is the low 52 bits. -/
theorem toNat_unpackMantissa (b : BitVec Format.binary64.numBits) :
    (unpackMantissa b).toNat = b.toNat % binade := by
  simp [unpackMantissa, binade]

/-- The exponent field is the 11 bits above. -/
theorem toNat_unpackExponent (b : BitVec Format.binary64.numBits) :
    (unpackExponent b).toNat = b.toNat / binade % 2048 := by
  simp [unpackExponent, binade, Nat.shiftRight_eq_div_pow]

/-- The sign field is the highest bit. -/
theorem toNat_unpackSign (b : BitVec Format.binary64.numBits) :
    (unpackSign b).toNat = b.toNat / 0x8000000000000000 % 2 := by
  simp [unpackSign, Nat.shiftRight_eq_div_pow]

/-! ### Numbers from bits -/

/-- Bits up to those of infinity encode a number, infinity having all ones in the exponent field and
none in the significand. -/
theorem isNaNBits_eq_false (h : b.toNat % 0x8000000000000000 ≤ infinityCode) :
    isNaNBits b = false := by
  refine decide_eq_false (not_and_not_right.mpr ?_)
  intro hexponent
  have hfield := congrArg BitVec.toNat hexponent
  rw [toNat_unpackExponent] at hfield
  change b.toNat / binade % 2048 = 2047 at hfield
  apply BitVec.eq_of_toNat_eq
  rw [toNat_unpackMantissa]
  change b.toNat % binade = 0
  unfold infinityCode at h
  unfold binade at hfield ⊢
  omega

/-- A number made from bits that do not encode no number has these bits. -/
theorem toBits_ofBits {bits : UInt64} (h : bits.toNat % 0x8000000000000000 ≤ infinityCode) :
    (Float.ofBits bits).toBits = bits := by
  have hpack : ∀ b : BitVec Format.binary64.numBits,
      b.toNat % 0x8000000000000000 ≤ infinityCode →
        pack Format.binary64 (unpack Format.binary64 b) = b := by
    intro b hb
    rw [pack_unpack b, isNaNBits_eq_false hb]
    rfl
  exact congrArg UInt64.ofBitVec (hpack bits.toBitVec h)

/-- What encodes no number has the one encoding that there is for it. -/
theorem toBits_of_infinityCode_lt {x : Float} (h : infinityCode < code x) :
    x.toBits = 0x7ff8000000000000 := by
  have hlt : x.toBits.toNat < 0x10000000000000000 := x.toBits.toNat_lt
  unfold code infinityCode at h
  have hbits : x.toModel.toBits.toBitVec = packedNaN Format.binary64 := by
    apply x.toModel.valid.eq_packedNaN
    · apply BitVec.eq_of_toNat_eq
      rw [toNat_unpackExponent]
      change x.toBits.toNat / binade % 2048 = 2047
      unfold binade
      omega
    · intro hzero
      have hfield := congrArg BitVec.toNat hzero
      rw [toNat_unpackMantissa] at hfield
      change x.toBits.toNat % binade = 0 at hfield
      unfold binade at hfield
      omega
  exact congrArg UInt64.ofBitVec hbits

/-! ### Numbers from a sign and a code -/

variable {negative : Bool} {c : Nat}

/-- The bits of a number are its sign and its code. -/
theorem toNat_toBits_ofCode (h : c ≤ infinityCode) :
    (ofCode negative c).toBits.toNat = (if negative then 0x8000000000000000 else 0) + c := by
  unfold infinityCode at h
  have hbits : (UInt64.ofNat ((if negative then 0x8000000000000000 else 0) + c)).toNat =
      (if negative then 0x8000000000000000 else 0) + c := by
    rw [UInt64.toNat_ofNat']
    apply Nat.mod_eq_of_lt
    split <;> omega
  unfold ofCode
  rw [toBits_ofBits, hbits]
  rw [hbits]
  unfold infinityCode
  split <;> omega

/-- A number has the code that it is made from. -/
theorem code_ofCode (h : c ≤ infinityCode) : code (ofCode negative c) = c := by
  unfold code
  rw [toNat_toBits_ofCode h]
  unfold infinityCode at h
  split <;> omega

/-- A number has the sign that it is made from. -/
theorem isNegative_ofCode (h : c ≤ infinityCode) : isNegative (ofCode negative c) = negative := by
  unfold isNegative
  rw [toNat_toBits_ofCode h]
  unfold infinityCode at h
  cases negative with
  | false => exact decide_eq_false (by simp only [Bool.false_eq_true, if_false]; omega)
  | true => exact decide_eq_true (by simp only [if_true]; omega)

/-- A number is made from its sign and its code. -/
theorem ofCode_code {x : Float} (h : code x ≤ infinityCode) :
    ofCode (isNegative x) (code x) = x := by
  have hlt : x.toBits.toNat < 0x10000000000000000 := x.toBits.toNat_lt
  apply Float.toBits_inj.mp
  apply UInt64.toNat_inj.mp
  rw [toNat_toBits_ofCode h]
  unfold isNegative code
  simp only [decide_eq_true_eq]
  split <;> omega

/-! ### The three kinds -/

/-- **Kinds.** There is one number that is none, and two infinities; all others are made from a sign
and a finite code. -/
theorem cases_code (x : Float) :
    x = nan ∨ (∃ negative, x = infinity negative) ∨
      ∃ negative c, c < infinityCode ∧ x = ofCode negative c := by
  rcases Nat.lt_trichotomy (code x) infinityCode with hlt | heq | hgt
  · exact .inr (.inr ⟨isNegative x, code x, hlt, (ofCode_code (Nat.le_of_lt hlt)).symm⟩)
  · refine .inr (.inl ⟨isNegative x, ?_⟩)
    rw [infinity, ← heq]
    exact (ofCode_code (Nat.le_of_eq heq)).symm
  · refine .inl (Float.toBits_inj.mp ?_)
    rw [toBits_of_infinityCode_lt hgt]
    decide

@[simp] theorem datum_nan : datum nan = .nan := by decide

@[simp] theorem datum_infinity (negative : Bool) : datum (infinity negative) = .infinite negative := by
  cases negative <;> decide

/-- A finite code stands for its units. -/
theorem datum_ofCode (h : c < infinityCode) :
    datum (ofCode negative c) = .finite negative (units c) := by
  unfold datum
  rw [code_ofCode (Nat.le_of_lt h), isNegative_ofCode (Nat.le_of_lt h), if_pos h]

end ReversePolish.Binary64
