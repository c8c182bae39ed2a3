import ReversePolish.Proofs.Binary64.Nearest
import ReversePolish.Proofs.Decimal.Grid

/-!
# The decimal of a number is the shortest and nearest one

* **Order** (`roundedCode_mono`): the rounding to a magnitude keeps the order, so that the numbers that
  are rounded to the same magnitude have no gaps between them (`ordConnected_readingRange`).
* **Reading** (`ofDecimal_eq_ofCode_iff`): a decimal is read as a given finite number iff it has its
  sign and is rounded to its magnitude.
* `IsShortest` — the decimal to write a number with: it is read as the number, no decimal that is has
  fewer significant digits, and of those with as many it is the nearest, the larger of two equally
  near.
* **Shortest decimals** (`isShortest_shortest`): the scan of the decimal grids gives that decimal.
-/

namespace ReversePolish.Binary64

variable {negative negative' : Bool} {c c' num num' den : ℕ} {d d' : Decimal} {p q : ℚ}

/-! ### Order -/

/-- A greater code stands for a greater magnitude. -/
theorem units_lt_units (h : c < c') : units c < units c' := by
  refine Nat.lt_of_lt_of_le ?_ (units_mono h)
  rw [units_succ]
  exact Nat.lt_add_of_pos_right (Nat.two_pow_pos _)

/-- A greater ratio is not rounded to a smaller magnitude. -/
theorem nearestCode_le_nearestCode (hden : 0 < den) (h : num ≤ num') :
    nearestCode num den ≤ nearestCode num' den := by
  by_contra hlt
  have hle : ∀ num, nearestCode num den ≤ infinityCode := fun num => Nat.min_le_right _ _
  have hnear : Nat.dist num _ ≤ Nat.dist num _ := (nearestCode_nearest hden (hle num')).1
  have hnear' : Nat.dist num' _ ≤ Nat.dist num' _ := (nearestCode_nearest hden (hle num)).1
  have hunits : units (nearestCode num' den) * den < units (nearestCode num den) * den :=
    Nat.mul_lt_mul_of_pos_right (units_lt_units (Nat.lt_of_not_le hlt)) hden
  -- either ratio is at least as near to its own magnitude, so both lie halfway between the two
  have heq : num = num' := by
    unfold Nat.dist at hnear hnear'
    omega
  exact hlt (heq ▸ le_rfl)

/-- The code of the magnitude that `q` units are rounded to; what is negative counts as zero. -/
def roundedCode (q : ℚ) : ℕ := nearestCode q.num.toNat q.den

theorem roundedCode_zero : roundedCode 0 = 0 := by decide

/-- No magnitude is beyond infinity. -/
theorem roundedCode_le (q : ℚ) : roundedCode q ≤ infinityCode := Nat.min_le_right _ _

/-- A ratio is rounded as the number that it is. -/
theorem nearestCode_eq_roundedCode (num : ℕ) (hden : 0 < den) :
    nearestCode num den = roundedCode (num / den) := by
  have hnonneg : (0 : ℚ) ≤ num / den := by positivity
  have hden' : (den : ℚ) ≠ 0 := Nat.cast_ne_zero.mpr hden.ne'
  unfold roundedCode
  generalize hq : (num : ℚ) / den = q at hnonneg
  have hnum : ((q.num.toNat : ℤ) : ℚ) = q.num := by
    rw [Int.toNat_of_nonneg (Rat.num_nonneg.mpr hnonneg)]
  apply nearestCode_congr hden q.den_pos
  have hvalue : (num : ℚ) / den = (q.num.toNat : ℕ) / (q.den : ℕ) := by
    rw [hq, ← Int.cast_natCast, hnum, Rat.num_div_den]
  rw [div_eq_div_iff hden' (Nat.cast_ne_zero.mpr q.den_nz)] at hvalue
  exact_mod_cast hvalue

/-- **Order.** The rounding keeps the order. -/
theorem roundedCode_mono : Monotone roundedCode := by
  intro p q hpq
  have hle : p.num.toNat * q.den ≤ q.num.toNat * p.den := by
    have hcross : p.num * q.den ≤ q.num * p.den := (Rat.le_iff p q).mp hpq
    rcases le_or_gt p.num 0 with hp | hp
    · rw [Int.toNat_of_nonpos hp, Nat.zero_mul]
      exact Nat.zero_le _
    · have hq : 0 < q.num := by
        have hpos : 0 < q.num * p.den :=
          (mul_pos hp (Int.natCast_pos.mpr q.den_pos)).trans_le hcross
        exact pos_of_mul_pos_left hpos (Int.natCast_nonneg _)
      zify
      rwa [Int.toNat_of_nonneg hp.le, Int.toNat_of_nonneg hq.le]
  calc nearestCode p.num.toNat p.den
      = nearestCode (p.num.toNat * q.den) (p.den * q.den) := (nearestCode_mul_mul q.den_pos).symm
    _ ≤ nearestCode (q.num.toNat * p.den) (p.den * q.den) :=
        nearestCode_le_nearestCode (Nat.mul_pos p.den_pos q.den_pos) hle
    _ = nearestCode q.num.toNat q.den := by
        rw [Nat.mul_comm p.den, nearestCode_mul_mul p.den_pos]

/-! ### Reading -/

/-- A decimal is read as the number of its sign with the magnitude that it is rounded to. -/
theorem ofDecimal_eq (negative : Bool) (d : Decimal) :
    ofDecimal negative d = ofCode negative (roundedCode (d.toRat / unit)) := by
  have hvalue := toRat_eq_shiftLeft_div d 1074
  have hunits : d.toRat / unit = _ := (div_eq_iff unit_pos.ne').mpr hvalue
  have hpower : 0 < Nat.pow 10 (-d.exponent).toNat := Nat.pow_pos (by decide)
  rw [hunits, ← nearestCode_eq_roundedCode _ hpower]
  rfl

/-- **Reading.** A decimal is read as a finite number iff it has the sign of the number and is rounded
to its magnitude. -/
theorem ofDecimal_eq_ofCode_iff (hc : c < infinityCode) :
    ofDecimal negative' d = ofCode negative c ↔
      negative' = negative ∧ roundedCode (d.toRat / unit) = c := by
  rw [ofDecimal_eq]
  constructor
  · intro h
    have hsign := congrArg isNegative h
    have hcode := congrArg code h
    rw [isNegative_ofCode (roundedCode_le _), isNegative_ofCode hc.le] at hsign
    rw [code_ofCode (roundedCode_le _), code_ofCode hc.le] at hcode
    exact ⟨hsign, hcode⟩
  · rintro ⟨rfl, rfl⟩
    rfl

/-- The numbers of steps, `den` of them in a unit, that are rounded to the magnitude with the code
`c`. -/
def readingRange (den c : ℕ) : Set ℚ := {q | roundedCode (q / den) = c}

/-- **Order.** There are no gaps between the numbers that are rounded to a magnitude. -/
theorem ordConnected_readingRange (den c : ℕ) : (readingRange den c).OrdConnected := by
  have hmono : Monotone fun q : ℚ => roundedCode (q / den) :=
    fun p q hpq => roundedCode_mono (div_le_div_of_nonneg_right hpq (Nat.cast_nonneg _))
  exact Set.ordConnected_singleton.preimage_mono hmono

/-- Only positive numbers are rounded to a positive magnitude. -/
theorem pos_of_mem_readingRange (hc : 0 < units c) (h : q ∈ readingRange den c) : 0 < q := by
  by_contra hneg
  have hle : roundedCode (q / den) ≤ roundedCode 0 :=
    roundedCode_mono (div_nonpos_of_nonpos_of_nonneg (not_lt.mp hneg) (Nat.cast_nonneg _))
  rw [h, roundedCode_zero, Nat.le_zero] at hle
  rw [hle] at hc
  exact absurd hc (by decide)

/-- A whole number of steps is rounded as the ratio that it is. -/
theorem mem_readingRange_iff (hden : 0 < den) (m c : ℕ) :
    (m : ℚ) ∈ readingRange den c ↔ nearestCode m den = c := by
  rw [nearestCode_eq_roundedCode m hden]
  rfl

/-! ### Shortest decimals -/

/-- The decimal `d` is the one to write the number `x` with, which has the value `q`. -/
structure IsShortest (x : Float) (q : ℚ) (d : Decimal) : Prop where
  /-- The decimal is read as the number. -/
  reads : ofDecimal (isNegative x) d = x
  /-- The number is the nearest to the decimal. -/
  isNearest : IsNearest (signed (isNegative x) d.toRat) x q
  /-- No decimal that is read as the number has fewer significant digits. -/
  precision_le : ∀ negative d', ofDecimal negative d' = x → d.precision ≤ d'.precision
  /-- None with as many is nearer to the number. -/
  nearest : ∀ negative d', ofDecimal negative d' = x → d'.precision = d.precision →
    |q - signed (isNegative x) d.toRat| ≤ |q - signed negative d'.toRat|
  /-- None with as many is as near and larger. -/
  larger : ∀ negative d', ofDecimal negative d' = x → d'.precision = d.precision →
    |q - signed negative d'.toRat| = |q - signed (isNegative x) d.toRat| → d'.toRat ≤ d.toRat

/-- The value of a magnitude in units of the decimal grids. -/
theorem units_mul_unit (c : ℕ) : units c * unit = scaled c * decimalUnit := by
  obtain ⟨den, hden, hscaled, -, hunit⟩ := exists_steps
  rw [hunit, hscaled, Nat.cast_mul, mul_div_cancel_right₀ _ (Nat.cast_ne_zero.mpr hden.ne')]

/-- **Shortest decimals.** The shortest decimal of a magnitude is the best point of the coarsest grid
that has one, and it beats every decimal that is rounded to the magnitude. -/
theorem exists_isCoarsest_shortest (hc : c < infinityCode) (hpos : 0 < units c) :
    ∃ c₀ t : ℕ, (shortest c).toRat = c₀ * 10 ^ t * decimalUnit ∧
      (shortest c).precision = Decimal.precision ⟨c₀, t⟩ ∧
      ∀ (n c' : ℕ) (e : ℤ), 0 < n → c' < 10 ^ n →
        roundedCode (c' * 10 ^ e * decimalUnit / unit) = c →
        Decimal.precision ⟨c₀, t⟩ ≤ n ∧
          (Decimal.precision ⟨c₀, t⟩ = n →
            |(scaled c : ℚ) - c₀ * 10 ^ t| ≤ |(scaled c : ℚ) - c' * 10 ^ e| ∧
              (|(scaled c : ℚ) - c' * 10 ^ e| = |(scaled c : ℚ) - c₀ * 10 ^ t| →
                (c' : ℚ) * 10 ^ e ≤ c₀ * 10 ^ t)) := by
  obtain ⟨den, hden, hscaled, hreads, hunit⟩ := exists_steps
  have hm : 0 < scaled c := by
    rw [hscaled]
    exact Nat.mul_pos hpos hden
  have haccepted : ∀ p, readsBack c p = true ↔ (p : ℚ) ∈ readingRange den c := by
    intro p
    rw [hreads, beq_iff_eq, mem_readingRange_iff hden]
  have hmem : (scaled c : ℚ) ∈ readingRange den c := (haccepted _).mp (readsBack_scaled hc)
  obtain ⟨hlow, hhigh⟩ := Decimal.pow_length_toDigits_bounds hm
  obtain ⟨c₀, t, hscan, hcoarsest⟩ := Decimal.exists_isCoarsest (ordConnected_readingRange den c)
    haccepted hmem ((Nat.toDigits 10 (scaled c)).length - 1)
  have hfound : (shortest c).toRat = c₀ * 10 ^ t * decimalUnit := by
    rw [toRat_shortest, hscan, Decimal.toRat, zpow_natCast]
  refine ⟨c₀, t, hfound, ?_, ?_⟩
  · apply Decimal.precision_eq_of_toRat_eq_mul (k := -1074)
    rw [hfound, Decimal.toRat, zpow_natCast]
    rfl
  · intro n c' e hn hc' hround
    rw [hunit, mul_div_cancel_right₀ _ unit_pos.ne'] at hround
    exact hcoarsest.beats (ordConnected_readingRange den c) hmem
      (fun q hq => pos_of_mem_readingRange hpos hq) hlow hhigh hn hc' hround

/-- **Shortest decimals.** A decimal that is rounded to a magnitude has as many significant digits as
the shortest one or more, and one with as many is not nearer, nor as near and larger. -/
theorem shortest_beats (hc : c < infinityCode) (hpos : 0 < units c)
    (hd : roundedCode (d.toRat / unit) = c) :
    (shortest c).precision ≤ d.precision ∧
      ((shortest c).precision = d.precision →
        |units c * unit - (shortest c).toRat| ≤ |units c * unit - d.toRat| ∧
          (|units c * unit - d.toRat| = |units c * unit - (shortest c).toRat| →
            d.toRat ≤ (shortest c).toRat)) := by
  obtain ⟨c₀, t, hfound, hprecision, hbeats⟩ := exists_isCoarsest_shortest hc hpos
  obtain ⟨c', e, hc', hvalue⟩ := (Decimal.precision_le_iff d.precision_pos).mp le_rfl
  have hcompetitor : d.toRat = c' * 10 ^ (e + 1074) * decimalUnit := by
    unfold decimalUnit
    rw [hvalue, mul_assoc, ← zpow_add₀ (by norm_num), add_neg_cancel_right]
  rw [hcompetitor] at hd
  obtain ⟨hfewer, hsame⟩ := hbeats d.precision c' (e + 1074) d.precision_pos hc' hd
  have hdistance : ∀ q : ℚ, |units c * unit - q * decimalUnit| = |scaled c - q| * decimalUnit := by
    intro q
    rw [units_mul_unit, ← sub_mul, abs_mul, abs_of_pos decimalUnit_pos]
  rw [hprecision]
  refine ⟨hfewer, fun heq => ?_⟩
  obtain ⟨hnearest, hlarger⟩ := hsame heq
  rw [hfound, hcompetitor, hdistance, hdistance]
  refine ⟨mul_le_mul_of_nonneg_right hnearest decimalUnit_pos.le, fun htie => ?_⟩
  exact mul_le_mul_of_nonneg_right (hlarger (mul_right_cancel₀ decimalUnit_pos.ne' htie))
    decimalUnit_pos.le

/-- **Shortest decimals.** The scan of the decimal grids gives the decimal to write a number with. -/
theorem isShortest_shortest (negative : Bool) (hc : c < infinityCode) (hpos : 0 < units c) :
    IsShortest (ofCode negative c) (signed negative (units c) * unit) (shortest c) := by
  have hbeats : ∀ negative' d', ofDecimal negative' d' = ofCode negative c →
      negative' = negative ∧ roundedCode (d'.toRat / unit) = c :=
    fun negative' d' h => (ofDecimal_eq_ofCode_iff hc).mp h
  have hdistance : ∀ p : ℚ, |signed negative (units c) * unit - signed negative p| =
      |units c * unit - p| := by
    intro p
    rw [← signed_mul, signed_sub, abs_signed]
  have hreads : ofDecimal negative (shortest c) = ofCode negative c :=
    ofDecimal_of_toRat_eq_shortest hc rfl
  refine ⟨?_, ?_, ?_, ?_, ?_⟩
  · rw [isNegative_ofCode hc.le, hreads]
  · rw [isNegative_ofCode hc.le, ← hreads]
    apply isNearest_ofDecimal
    rw [hreads, toRat?_ofCode hc]
  · intro negative' d' h
    exact (shortest_beats hc hpos (hbeats negative' d' h).2).1
  · intro negative' d' h hsame
    obtain ⟨rfl, hround⟩ := hbeats negative' d' h
    rw [isNegative_ofCode hc.le, hdistance, hdistance]
    exact ((shortest_beats hc hpos hround).2 hsame.symm).1
  · intro negative' d' h hsame htie
    obtain ⟨rfl, hround⟩ := hbeats negative' d' h
    rw [isNegative_ofCode hc.le, hdistance, hdistance] at htie
    exact ((shortest_beats hc hpos hround).2 hsame.symm).2 htie

end ReversePolish.Binary64
