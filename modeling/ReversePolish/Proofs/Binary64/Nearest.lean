import Mathlib.Data.Nat.Dist
import Mathlib.Order.Monotone.Basic
import ReversePolish.Proofs.Binary64.Numeral

/-!
# The rounding is to the nearest number

* **Whole numbers** (`roundHalfEven_nearest`): no whole number is nearer to a ratio than its rounding,
  and of two equally near the rounding is the even one.
* **Steps** (`units_grid`, `units_succ`, `units_mono`): at every exponent, a magnitude is a whole
  number of steps of that exponent or has a lower one, and codes are in the order of magnitudes.
* **Spacing** (`spacing_spec`): a ratio is not below the exponent that its spacing is taken for, and
  its rounding in steps of that spacing is a significand of this exponent or fills the next binade.
* **Magnitudes** (`nearestCode_nearest`): no magnitude up to that of infinity is nearer to a ratio
  than the one it is rounded to, and a tie goes to the even code. Infinity counts as the magnitude
  that follows the greatest finite one.
* **Numbers** (`isNearest_nearest`, `isNearest_ofDecimal`): no finite number is nearer to a ratio of
  units, or to a decimal, than the one it is rounded to or read as, and of two equally near this is
  the one with the even code.
-/

namespace ReversePolish.Binary64

variable {c e r num den : Nat}

/-! ### Whole numbers -/

/-- The rounding to a whole number, by the place of the ratio between two of them. -/
theorem roundHalfEven_cases (num den : Nat) :
    (roundHalfEven num den = num / den ∧ 2 * (num % den) < den) ∨
    (roundHalfEven num den = num / den + 1 ∧ den < 2 * (num % den)) ∨
    (roundHalfEven num den = num / den + num / den % 2 ∧ 2 * (num % den) = den) := by
  unfold roundHalfEven
  dsimp only
  split
  · next hbelow => exact .inl ⟨rfl, hbelow⟩
  · split
    · next habove => exact .inr (.inl ⟨rfl, habove⟩)
    · exact .inr (.inr ⟨rfl, by omega⟩)

/-- The rounding is one of the two whole numbers around the ratio. -/
theorem roundHalfEven_bounds (num den : Nat) :
    num / den ≤ roundHalfEven num den ∧ roundHalfEven num den ≤ num / den + 1 := by
  rcases roundHalfEven_cases num den with ⟨hr, -⟩ | ⟨hr, -⟩ | ⟨hr, -⟩ <;> omega

/-- **Whole numbers.** No whole number is nearer to a ratio than its rounding, and of two equally
near the rounding is the even one. -/
theorem roundHalfEven_nearest (num : Nat) (hden : 0 < den) (m : Nat) :
    Nat.dist num (roundHalfEven num den * den) ≤ Nat.dist num (m * den) ∧
      (Nat.dist num (m * den) ≤ Nat.dist num (roundHalfEven num den * den) →
        m = roundHalfEven num den ∨ roundHalfEven num den % 2 = 0) := by
  have hsplit : num / den * den + num % den = num := Nat.div_add_mod' num den
  have hlt : num % den < den := Nat.mod_lt num hden
  have hnext : (num / den + 1) * den = num / den * den + den := Nat.succ_mul _ _
  -- where `m` lies among the two whole numbers around the ratio and those beyond
  have hplace : (m + 1) * den ≤ num / den * den ∨ m = num / den ∨ m = num / den + 1 ∨
      (num / den + 2) * den ≤ m * den := by
    rcases Nat.lt_trichotomy m (num / den) with hless | heq | hmore
    · exact .inl (Nat.mul_le_mul_right den hless)
    · exact .inr (.inl heq)
    · rcases Nat.eq_or_lt_of_le hmore with heq | hmore
      · exact .inr (.inr (.inl heq.symm))
      · exact .inr (.inr (.inr (Nat.mul_le_mul_right den hmore)))
  rw [Nat.succ_mul, Nat.add_mul] at hplace
  have hround := roundHalfEven_cases num den
  generalize roundHalfEven num den = r at *
  generalize num / den = q at *
  generalize num % den = t at *
  unfold Nat.dist
  rcases hround with ⟨rfl, ht⟩ | ⟨rfl, ht⟩ | ⟨hr, ht⟩
  · rcases hplace with hless | rfl | rfl | hmore <;> omega
  · rcases hplace with hless | rfl | rfl | hmore <;> omega
  · -- halfway between two whole numbers, the even one of them has been taken
    rcases Nat.mod_two_eq_zero_or_one q with heven | hodd
    · rw [heven, Nat.add_zero] at hr
      subst hr
      rcases hplace with hless | rfl | rfl | hmore <;> omega
    · rw [hodd] at hr
      subst hr
      rcases hplace with hless | rfl | rfl | hmore <;> omega

/-! ### Steps -/

/-- A significand has all its 53 digits unless the exponent is the lowest. -/
theorem exponent_eq_zero_or_le_significand (c : Nat) :
    c / binade - 1 = 0 ∨ binade ≤ significand c := by
  unfold significand
  split
  · next h => exact .inl (by rw [Nat.div_eq_of_lt h])
  · exact .inr (Nat.le_add_right _ _)

/-- The next code is one step of the exponent away. -/
theorem units_succ (c : Nat) : units (c + 1) = units c + 2 ^ (c / binade - 1) := by
  have hlt := significand_lt c
  have hnormal := exponent_eq_zero_or_le_significand c
  have hcode := code_eq c
  rw [units_eq c]
  generalize c / binade - 1 = e at *
  generalize significand c = s at *
  rw [← hcode, Nat.add_assoc, units_add (by omega) (by omega), Nat.succ_mul]

/-- A greater code stands for a greater magnitude. -/
theorem units_mono {c' : Nat} (h : c ≤ c') : units c ≤ units c' := by
  have hmono : Monotone units := by
    refine monotone_nat_of_le_succ fun c => ?_
    rw [units_succ]
    exact Nat.le_add_right _ _
  exact hmono h

/-- At every exponent, a magnitude is a whole number of steps or has a lower exponent. -/
theorem units_grid (c e : Nat) :
    (∃ m, units c = m * 2 ^ e) ∨ (0 < e ∧ units c < binade * 2 ^ e) := by
  rw [units_eq c]
  rcases Nat.lt_or_ge (c / binade - 1) e with hlower | hhigher
  · right
    refine ⟨by omega, ?_⟩
    calc significand c * 2 ^ (c / binade - 1)
        < 2 * binade * 2 ^ (c / binade - 1) :=
          Nat.mul_lt_mul_of_pos_right (significand_lt c) (Nat.two_pow_pos _)
      _ = binade * 2 ^ (c / binade - 1 + 1) := by rw [Nat.pow_succ]; ring
      _ ≤ binade * 2 ^ e :=
          Nat.mul_le_mul_left _ (Nat.pow_le_pow_right (by decide) (by omega))
  · left
    obtain ⟨gap, hgap⟩ := Nat.exists_eq_add_of_le hhigher
    refine ⟨significand c * 2 ^ gap, ?_⟩
    rw [hgap, Nat.pow_add]
    ring

/-! ### Spacing -/

/-- Measured in steps of the spacing around it, a number has at most 53 binary digits, and no fewer
unless the spacing is the least. -/
theorem div_spacing_bounds (q : Nat) :
    q / 2 ^ spacing q < 2 * binade ∧ (spacing q = 0 ∨ binade ≤ q / 2 ^ spacing q) := by
  have hpow : binade = 2 ^ 52 := rfl
  have hlt : q < 2 ^ (q.log2 + 1) := Nat.lt_log2_self
  constructor
  · rw [Nat.div_lt_iff_lt_mul (Nat.two_pow_pos _), hpow, ← Nat.pow_succ', ← Nat.pow_add]
    refine Nat.lt_of_lt_of_le hlt (Nat.pow_le_pow_right (by decide) ?_)
    unfold spacing
    omega
  · by_cases hzero : spacing q = 0
    · exact .inl hzero
    · right
      have hlog : spacing q + 52 = q.log2 := by
        unfold spacing at hzero ⊢
        omega
      have hq : q ≠ 0 := by
        rintro rfl
        exact hzero rfl
      rw [Nat.le_div_iff_mul_le (Nat.two_pow_pos _), hpow, ← Nat.pow_add, Nat.add_comm, hlog]
      exact Nat.log2_self_le hq

/-- A ratio is at least one step above the lower exponents unless its own exponent is the lowest, and
its rounding in steps fits the exponent. -/
theorem spacing_spec (num den : Nat) :
    (spacing (num / den) = 0 ∨ binade * (den <<< spacing (num / den)) ≤ num) ∧
      roundHalfEven num (den <<< spacing (num / den)) ≤ 2 * binade ∧
      (spacing (num / den) = 0 ∨ binade ≤ roundHalfEven num (den <<< spacing (num / den))) := by
  have hdiv : num / (den <<< spacing (num / den)) = num / den / 2 ^ spacing (num / den) := by
    rw [Nat.shiftLeft_eq, Nat.div_div_eq_div_mul]
  have hround := roundHalfEven_bounds num (den <<< spacing (num / den))
  obtain ⟨hlt, hnormal⟩ := div_spacing_bounds (num / den)
  rw [← hdiv] at hlt hnormal
  have hstep : num / (den <<< spacing (num / den)) * (den <<< spacing (num / den)) ≤ num :=
    Nat.div_mul_le_self _ _
  refine ⟨?_, by omega, by omega⟩
  rcases hnormal with hzero | hle
  · exact .inl hzero
  · exact .inr ((Nat.mul_le_mul_right _ hle).trans hstep)

/-! ### Magnitudes -/

/-- In steps of an exponent that a ratio is not below, no magnitude is nearer to the ratio than its
rounding, and of two equally near the rounding is the even one. -/
theorem dist_round_le (hden : 0 < den) (hnormal : e = 0 ∨ binade * (den <<< e) ≤ num) (c : Nat) :
    Nat.dist num (roundHalfEven num (den <<< e) * (den <<< e)) ≤ Nat.dist num (units c * den) ∧
      (Nat.dist num (units c * den) ≤
          Nat.dist num (roundHalfEven num (den <<< e) * (den <<< e)) →
        units c = roundHalfEven num (den <<< e) * 2 ^ e ∨
          roundHalfEven num (den <<< e) % 2 = 0) := by
  have hmul : ∀ m, m * 2 ^ e * den = m * (den <<< e) := by
    intro m
    rw [Nat.shiftLeft_eq]
    ring
  have hstep : 0 < den <<< e := by
    rw [Nat.shiftLeft_eq]
    exact Nat.mul_pos hden (Nat.two_pow_pos e)
  rcases units_grid c e with ⟨m, hm⟩ | ⟨hpos, hlower⟩
  · obtain ⟨hnearest, htie⟩ := roundHalfEven_nearest num hstep m
    rw [hm, hmul]
    refine ⟨hnearest, fun hback => ?_⟩
    rcases htie hback with heq | heven
    · exact .inl (by rw [← heq])
    · exact .inr heven
  · -- what has a lower exponent lies below the least step of this one, which is not above the ratio
    have hbelow : units c * den < binade * (den <<< e) := by
      rw [← hmul]
      exact Nat.mul_lt_mul_of_pos_right hlower hden
    have hnum : binade * (den <<< e) ≤ num := hnormal.resolve_left (by omega)
    have hleast := (roundHalfEven_nearest num hstep binade).1
    unfold Nat.dist at hleast ⊢
    constructor
    · omega
    · omega

/-- **Magnitudes.** No magnitude up to that of infinity is nearer to a ratio than the one that the
ratio is rounded to, and of two equally near the code of that one is even. -/
theorem nearestCode_nearest (hden : 0 < den) (hc : c ≤ infinityCode) :
    Nat.dist num (units (nearestCode num den) * den) ≤ Nat.dist num (units c * den) ∧
      (Nat.dist num (units c * den) ≤ Nat.dist num (units (nearestCode num den) * den) →
        units c = units (nearestCode num den) ∨ nearestCode num den % 2 = 0) := by
  obtain ⟨hnormal, hle, hfull⟩ := spacing_spec num den
  have hround := dist_round_le hden hnormal c
  unfold nearestCode
  dsimp only
  generalize spacing (num / den) = e at *
  by_cases hfinite : e * binade + roundHalfEven num (den <<< e) ≤ infinityCode
  · have hunits : units (e * binade + roundHalfEven num (den <<< e)) * den =
        roundHalfEven num (den <<< e) * (den <<< e) := by
      rw [units_add hle hfull, Nat.shiftLeft_eq]
      ring
    have hparity : (e * binade + roundHalfEven num (den <<< e)) % 2 =
        roundHalfEven num (den <<< e) % 2 := by
      unfold binade
      omega
    rw [Nat.min_eq_left hfinite, hunits, hparity, units_add hle hfull]
    exact hround
  · -- beyond infinity, the ratio itself is not below the magnitude that its code stands for
    have hexponent : 2046 ≤ e := by
      unfold infinityCode binade at *
      omega
    have htop : units infinityCode ≤ binade * 2 ^ e := by
      rw [← units_add (r := binade) (by unfold binade; omega) (.inr le_rfl)]
      apply units_mono
      unfold infinityCode binade
      omega
    have hnum : units infinityCode * den ≤ num := by
      refine le_trans ?_ (hnormal.resolve_left (by omega))
      rw [Nat.shiftLeft_eq, mul_comm den, ← mul_assoc]
      exact Nat.mul_le_mul_right den htop
    have hbelow : units c * den ≤ units infinityCode * den :=
      Nat.mul_le_mul_right den (units_mono hc)
    rw [Nat.min_eq_right (by omega)]
    unfold Nat.dist
    exact ⟨by omega, fun _ => .inr (by decide)⟩

/-! ### Numbers -/

variable {negative : Bool} {p q : ℚ} {y : Float}

/-- The distance of two whole numbers as that of rational ones. -/
theorem cast_dist (m n : Nat) : (Nat.dist m n : ℚ) = |(m : ℚ) - n| := by
  rcases Nat.le_total m n with hle | hle
  · have hcast : (m : ℚ) ≤ n := by exact_mod_cast hle
    rw [Nat.dist_eq_sub_of_le hle, Nat.cast_sub hle, abs_of_nonpos (by linarith), neg_sub]
  · have hcast : (n : ℚ) ≤ m := by exact_mod_cast hle
    rw [Nat.dist_eq_sub_of_le_right hle, Nat.cast_sub hle, abs_of_nonneg (by linarith)]

/-- The distance of a ratio from a magnitude, both counted in units. -/
theorem abs_div_sub_units (num : Nat) (hden : 0 < den) (c : Nat) :
    |(num : ℚ) / den - units c| = (Nat.dist num (units c * den) : ℚ) / den := by
  have hden' : (0 : ℚ) < den := by exact_mod_cast hden
  rw [cast_dist, Nat.cast_mul, div_sub' hden'.ne', abs_div, abs_of_pos hden', mul_comm (den : ℚ)]

/-- The finite number `x`, which has the value `q`, is the nearest to `v`, and where a number of
another magnitude is as near, the code of `x` is even. -/
structure IsNearest (v : ℚ) (x : Float) (q : ℚ) : Prop where
  /-- The value of the number. -/
  value : toRat? x = some q
  /-- No finite number is nearer. -/
  nearest : ∀ y p, toRat? y = some p → |v - q| ≤ |v - p|
  /-- A tie goes to the even code. -/
  even : ∀ y p, toRat? y = some p → |v - p| = |v - q| → |p| = |q| ∨ code x % 2 = 0

/-- **Numbers.** The number that a ratio of units is rounded to is the nearest to it. -/
theorem isNearest_nearest (hden : 0 < den) (hx : toRat? (nearest negative num den) = some q) :
    IsNearest (signed negative ((num : ℚ) / den * unit)) (nearest negative num den) q := by
  have hfinite : nearestCode num den < infinityCode := by
    refine lt_of_le_of_ne (Nat.min_le_right _ _) fun hinfinite => ?_
    rw [nearest, hinfinite] at hx
    rw [← infinity, (kind_infinity negative).2.2.2] at hx
    cases hx
  have hvalue := hx
  rw [nearest, toRat?_ofCode hfinite] at hvalue
  obtain rfl := Option.some.inj hvalue
  have hden' : (0 : ℚ) < den := by exact_mod_cast hden
  have hscale : ∀ p q : ℚ, |p * unit - q * unit| = |p - q| * unit := by
    intro p q
    rw [← sub_mul, abs_mul, abs_of_pos unit_pos]
  -- the distance from a magnitude, whatever the sign of the number that has it
  have hsame : |signed negative ((num : ℚ) / den * unit) -
      signed negative (units (nearestCode num den)) * unit| =
        Nat.dist num (units (nearestCode num den) * den) / den * unit := by
    rw [signed_mul, hscale, signed_sub, abs_signed, abs_div_sub_units num hden]
  have hother : ∀ negative' c, Nat.dist num (units c * den) / den * unit ≤
      |signed negative ((num : ℚ) / den * unit) - signed negative' (units c) * unit| := by
    intro negative' c
    rw [signed_mul, hscale, ← abs_div_sub_units num hden]
    exact mul_le_mul_of_nonneg_right
      (abs_sub_le_abs_signed_sub _ _ (by positivity) (Nat.cast_nonneg _)) unit_pos.le
  refine ⟨hx, ?_, ?_⟩
  · intro y p hy
    obtain ⟨negative', c, hc, rfl, rfl⟩ := exists_code_of_toRat?_eq_some hy
    have hdist : (Nat.dist num (units (nearestCode num den) * den) : ℚ) ≤
        Nat.dist num (units c * den) := by
      exact_mod_cast (nearestCode_nearest hden hc.le).1
    rw [hsame]
    refine le_trans ?_ (hother negative' c)
    exact mul_le_mul_of_nonneg_right (div_le_div_of_nonneg_right hdist hden'.le) unit_pos.le
  · intro y p hy htie
    obtain ⟨negative', c, hc, rfl, rfl⟩ := exists_code_of_toRat?_eq_some hy
    have hback := hother negative' c
    rw [htie, hsame, mul_le_mul_iff_of_pos_right unit_pos, div_le_div_iff_of_pos_right hden']
      at hback
    have hdist : Nat.dist num (units c * den) ≤ Nat.dist num (units (nearestCode num den) * den) := by
      exact_mod_cast hback
    rcases (nearestCode_nearest hden hc.le).2 hdist with heq | heven
    · left
      rw [abs_mul, abs_mul, abs_signed, abs_signed, heq]
    · right
      rwa [nearest, code_ofCode hfinite.le]

/-- **Numbers.** The number that a decimal is read as is the nearest to it. -/
theorem isNearest_ofDecimal {d : Decimal} (hx : toRat? (ofDecimal negative d) = some q) :
    IsNearest (signed negative d.toRat) (ofDecimal negative d) q := by
  have hvalue := toRat_eq_shiftLeft_div d 1074
  have hpower : 0 < Nat.pow 10 (-d.exponent).toNat := Nat.pow_pos (by decide)
  rw [hvalue]
  exact isNearest_nearest hpower hx

end ReversePolish.Binary64
