import Mathlib.Order.Interval.Set.OrdConnected
import Mathlib.Tactic.Linarith
import Mathlib.Tactic.Positivity
import ReversePolish.Decimal.Grid
import ReversePolish.Proofs.Decimal.Precision

/-!
# The coarsest grid gives the shortest decimal

`S` is a set of numbers with no gaps in it, and a whole number `m` lies in it.

* `IsBest` — a point of a grid that lies in `S`, the nearest to a given number and the larger of two
  equally near. **Neighbours** (`neighbours_cases`): when a grid has a point in `S` at all, one of the
  two neighbours of `m` is the best.
* `IsCoarsest` — the best point of the coarsest grid that has one. **Scan** (`exists_isCoarsest`): the
  scan of the grids ends on it.
* **Competitors** (`IsCoarsest.beats`): whatever decimal lies in `S` has as many significant digits as
  the point found or more, and if it has as many, it is not nearer to `m`, nor as near and larger. This
  needs care with decimals on finer grids: they have more digits than a point of the same order of
  magnitude, and where a power of ten lies between them and the point found, that power has one digit.
-/

namespace ReversePolish.Decimal

variable {S : Set ℚ} {x g : ℚ} {a c m t t₀ : ℕ}

/-! ### The best point of a grid -/

/-- Of the points of the grid of `g` that lie in `S`, the one with the coefficient `c` is the nearest
to `x`, and the larger of two equally near. -/
structure IsBest (S : Set ℚ) (x g : ℚ) (c : ℕ) : Prop where
  /-- The point lies in `S`. -/
  mem : c * g ∈ S
  /-- No other such point is nearer. -/
  nearest : ∀ c' : ℕ, c' * g ∈ S → |x - c * g| ≤ |x - c' * g|
  /-- No other such point is as near and larger. -/
  larger : ∀ c' : ℕ, c' * g ∈ S → |x - c' * g| = |x - c * g| → c' ≤ c

/-- A point below `x` is as far from it as it is less, and farther than the last such point. -/
theorem below_le (hg : 0 < g) (hlow : a * g ≤ x) (hc : c ≤ a) :
    c * g ≤ a * g ∧ |x - c * g| = x - c * g := by
  have hle : (c : ℚ) * g ≤ a * g :=
    mul_le_mul_of_nonneg_right (Nat.cast_le.mpr hc) hg.le
  exact ⟨hle, abs_of_nonneg (by linarith)⟩

/-- A point above `x` is as far from it as it is more, and farther than the first such point. -/
theorem le_above (hg : 0 < g) (hhigh : x < (a + 1 : ℕ) * g) (hc : a < c) :
    (a + 1 : ℕ) * g ≤ c * g ∧ |x - c * g| = c * g - x := by
  have hle : ((a + 1 : ℕ) : ℚ) * g ≤ c * g :=
    mul_le_mul_of_nonneg_right (Nat.cast_le.mpr hc) hg.le
  refine ⟨hle, ?_⟩
  rw [abs_sub_comm]
  exact abs_of_nonneg (by linarith)

section Neighbours

variable (hS : S.OrdConnected) (hx : x ∈ S) (hg : 0 < g) (hlow : a * g ≤ x)
  (hhigh : x < (a + 1 : ℕ) * g)

include hS hx hg

/-- When a point up to `x` lies in `S`, the last such point does. -/
theorem mem_below (hlow : a * g ≤ x) (hc : c ≤ a) (h : c * g ∈ S) : a * g ∈ S :=
  hS.out h hx ⟨(below_le hg hlow hc).1, hlow⟩

/-- When a point beyond `x` lies in `S`, the first such point does. -/
theorem mem_above (hhigh : x < (a + 1 : ℕ) * g) (hc : a < c) (h : c * g ∈ S) :
    (a + 1 : ℕ) * g ∈ S :=
  hS.out hx h ⟨hhigh.le, (le_above hg hhigh hc).1⟩

include hlow hhigh

/-- The last point up to `x` is the best when the next one is farther or not in `S`. -/
theorem isBest_below (hmem : a * g ∈ S)
    (hnear : x - a * g < (a + 1 : ℕ) * g - x ∨ (a + 1 : ℕ) * g ∉ S) : IsBest S x g a := by
  have hself : |x - a * g| = x - a * g := (below_le hg hlow le_rfl).2
  have hfar : ∀ c' : ℕ, a < c' → c' * g ∈ S → |x - a * g| < |x - c' * g| := by
    intro c' hc hc'
    obtain ⟨hle, habs⟩ := le_above hg hhigh hc
    have hnext : x - a * g < (a + 1 : ℕ) * g - x :=
      hnear.resolve_right (not_not_intro (mem_above hS hx hg hhigh hc hc'))
    rw [hself, habs]
    linarith
  refine ⟨hmem, ?_, ?_⟩
  · intro c' hc'
    rcases Nat.lt_or_ge a c' with hc | hc
    · exact (hfar c' hc hc').le
    · obtain ⟨hle, habs⟩ := below_le hg hlow hc
      rw [hself, habs]
      linarith
  · intro c' hc' heq
    by_contra hc
    exact absurd heq (hfar c' (Nat.lt_of_not_le hc) hc').ne'

/-- The first point beyond `x` is the best when the one before it is not nearer or not in `S`. -/
theorem isBest_above (hmem : (a + 1 : ℕ) * g ∈ S)
    (hnear : (a + 1 : ℕ) * g - x ≤ x - a * g ∨ a * g ∉ S) : IsBest S x g (a + 1) := by
  have hself : |x - (a + 1 : ℕ) * g| = (a + 1 : ℕ) * g - x :=
    (le_above hg hhigh (Nat.lt_succ_self a)).2
  refine ⟨hmem, ?_, ?_⟩
  · intro c' hc'
    rcases Nat.lt_or_ge a c' with hc | hc
    · obtain ⟨hle, habs⟩ := le_above hg hhigh hc
      rw [hself, habs]
      linarith
    · obtain ⟨hle, habs⟩ := below_le hg hlow hc
      have hlast : (a + 1 : ℕ) * g - x ≤ x - a * g :=
        hnear.resolve_right (not_not_intro (mem_below hS hx hg hlow hc hc'))
      rw [hself, habs]
      linarith
  · intro c' hc' heq
    by_contra hc
    obtain ⟨-, habs⟩ := le_above hg hhigh (by omega : a < c')
    rw [habs, hself] at heq
    have hpoint : (c' : ℚ) * g = (a + 1 : ℕ) * g := by linarith
    have hcoefficient : c' = a + 1 := by
      exact_mod_cast mul_right_cancel₀ hg.ne' hpoint
    omega

/-- No point of the grid lies in `S` when neither neighbour does. -/
theorem forall_not_mem (hbelow : a * g ∉ S) (habove : (a + 1 : ℕ) * g ∉ S) (c : ℕ) :
    c * g ∉ S := by
  intro hc
  rcases Nat.lt_or_ge a c with hless | hmore
  · exact habove (mem_above hS hx hg hhigh hless hc)
  · exact hbelow (mem_below hS hx hg hlow hmore hc)

/-- Where the last point up to `x` is the nearer one, it is asked first. -/
theorem isBest_below_cases (hnear : x - a * g < (a + 1 : ℕ) * g - x) :
    IsBest S x g a ∨ (a * g ∉ S ∧ IsBest S x g (a + 1)) ∨ ∀ c : ℕ, c * g ∉ S := by
  by_cases hbelow : a * g ∈ S
  · exact .inl (isBest_below hS hx hg hlow hhigh hbelow (.inl hnear))
  · by_cases habove : (a + 1 : ℕ) * g ∈ S
    · exact .inr (.inl ⟨hbelow, isBest_above hS hx hg hlow hhigh habove (.inr hbelow)⟩)
    · exact .inr (.inr (forall_not_mem hS hx hg hlow hhigh hbelow habove))

/-- Where the last point up to `x` is not the nearer one, the next one is asked first. -/
theorem isBest_above_cases (hfar : (a + 1 : ℕ) * g - x ≤ x - a * g) :
    IsBest S x g (a + 1) ∨ ((a + 1 : ℕ) * g ∉ S ∧ IsBest S x g a) ∨ ∀ c : ℕ, c * g ∉ S := by
  by_cases habove : (a + 1 : ℕ) * g ∈ S
  · exact .inl (isBest_above hS hx hg hlow hhigh habove (.inl hfar))
  · by_cases hbelow : a * g ∈ S
    · exact .inr (.inl ⟨habove, isBest_below hS hx hg hlow hhigh hbelow (.inr habove)⟩)
    · exact .inr (.inr (forall_not_mem hS hx hg hlow hhigh hbelow habove))

end Neighbours

/-- A whole number is a point of a grid and a rest that is less than the grid is wide. -/
theorem eq_point_add_rest (m t : ℕ) :
    (m : ℚ) = (m / 10 ^ t : ℕ) * 10 ^ t + (m % 10 ^ t : ℕ) ∧ ((m % 10 ^ t : ℕ) : ℚ) < 10 ^ t := by
  constructor
  · exact_mod_cast (Nat.div_add_mod' m (10 ^ t)).symm
  · exact_mod_cast Nat.mod_lt m (Nat.pow_pos (by decide) : 0 < 10 ^ t)

/-- **Neighbours.** One of the two neighbours is the best point of a grid, the first when it lies in
`S`, or no point of the grid lies in `S`. -/
theorem neighbours_cases (hS : S.OrdConnected) (hm : (m : ℚ) ∈ S) (t : ℕ) :
    IsBest S m (10 ^ t) (neighbours m t).1 ∨
    ((neighbours m t).1 * (10 : ℚ) ^ t ∉ S ∧ IsBest S m (10 ^ t) (neighbours m t).2) ∨
    ∀ c : ℕ, c * (10 : ℚ) ^ t ∉ S := by
  have hg : (0 : ℚ) < 10 ^ t := by positivity
  obtain ⟨hsplit, hrest⟩ := eq_point_add_rest m t
  have hnext : ((m / 10 ^ t + 1 : ℕ) : ℚ) * 10 ^ t = (m / 10 ^ t : ℕ) * 10 ^ t + 10 ^ t := by
    push_cast
    ring
  have hlow : (m / 10 ^ t : ℕ) * (10 : ℚ) ^ t ≤ m := by
    have hnonneg : (0 : ℚ) ≤ (m % 10 ^ t : ℕ) := Nat.cast_nonneg _
    linarith
  have hhigh : (m : ℚ) < (m / 10 ^ t + 1 : ℕ) * 10 ^ t := by linarith
  unfold neighbours
  simp only [Nat.pow_eq]
  split
  · next hnear =>
      have hcast : (2 * (m % 10 ^ t : ℕ) : ℚ) < 10 ^ t := by exact_mod_cast hnear
      exact isBest_below_cases hS hm hg hlow hhigh (by linarith)
  · next hfar =>
      have hcast : (10 ^ t : ℚ) ≤ 2 * (m % 10 ^ t : ℕ) := by exact_mod_cast Nat.le_of_not_lt hfar
      exact isBest_above_cases hS hm hg hlow hhigh (by linarith)

/-- The neighbours are at most the first point beyond the number. -/
theorem neighbours_le (m t : ℕ) :
    (neighbours m t).1 ≤ m / 10 ^ t + 1 ∧ (neighbours m t).2 ≤ m / 10 ^ t + 1 := by
  unfold neighbours
  simp only [Nat.pow_eq]
  split
  · exact ⟨Nat.le_succ _, le_rfl⟩
  · exact ⟨le_rfl, Nat.le_succ _⟩

/-! ### The scan -/

/-- Of the grids of `10 ^ t₀`, `10 ^ (t₀ - 1)`, …, `1` the first with a point in `S` is that of
`10 ^ t`, and `c` is the coefficient of its best point for `m`. -/
structure IsCoarsest (S : Set ℚ) (m t₀ c t : ℕ) : Prop where
  /-- No point of the grid is better. -/
  best : IsBest S m (10 ^ t) c
  /-- The point is at most the first one beyond `m`. -/
  coefficient_le : c ≤ m / 10 ^ t + 1
  /-- The grid is one of those scanned. -/
  le : t ≤ t₀
  /-- The grids before it have no point in `S`. -/
  not_mem : ∀ t', t < t' → t' ≤ t₀ → ∀ c' : ℕ, c' * (10 : ℚ) ^ t' ∉ S

/-- **Scan.** The scan of the grids ends on the best point of the first one that has one. -/
theorem exists_isCoarsest {accepted : ℕ → Bool} (hS : S.OrdConnected)
    (haccepted : ∀ p : ℕ, accepted p = true ↔ (p : ℚ) ∈ S) (hm : (m : ℚ) ∈ S) (t₀ : ℕ) :
    ∃ c t : ℕ, coarsest accepted m t₀ = ⟨c, t⟩ ∧ IsCoarsest S m t₀ c t := by
  have hpoint : ∀ c t : ℕ, accepted (c * 10 ^ t) = true ↔ (c : ℚ) * 10 ^ t ∈ S := by
    intro c t
    rw [haccepted]
    push_cast
    rfl
  induction t₀ with
  | zero =>
      refine ⟨m, 0, rfl, ⟨?_, ?_, ?_⟩, ?_, le_rfl, ?_⟩
      · rwa [pow_zero, mul_one]
      · intro c' _
        rw [pow_zero, mul_one, sub_self, abs_zero]
        exact abs_nonneg _
      · intro c' _ heq
        rw [pow_zero, mul_one, mul_one, sub_self, abs_zero, abs_eq_zero, sub_eq_zero] at heq
        exact (Nat.cast_injective heq).ge
      · rw [pow_zero, Nat.div_one]
        exact Nat.le_succ m
      · intro t' hlt hle
        omega
  | succ t₀ ih =>
      obtain ⟨hfst, hsnd⟩ := neighbours_le m (t₀ + 1)
      have hnone : ∀ t', t₀ + 1 < t' → t' ≤ t₀ + 1 → ∀ c' : ℕ, c' * (10 : ℚ) ^ t' ∉ S := by
        intro t' hlt hle
        omega
      unfold coarsest
      simp only [Nat.pow_eq]
      rcases neighbours_cases hS hm (t₀ + 1) with hbest | ⟨hfirst, hbest⟩ | hgrid
      · rw [if_pos ((hpoint _ _).mpr hbest.mem)]
        exact ⟨_, _, rfl, hbest, hfst, le_rfl, hnone⟩
      · rw [if_neg (mt (hpoint _ _).mp hfirst), if_pos ((hpoint _ _).mpr hbest.mem)]
        exact ⟨_, _, rfl, hbest, hsnd, le_rfl, hnone⟩
      · rw [if_neg (mt (hpoint _ _).mp (hgrid _)), if_neg (mt (hpoint _ _).mp (hgrid _))]
        obtain ⟨c, t, hscan, hcoarsest⟩ := ih
        refine ⟨c, t, hscan, hcoarsest.best, hcoarsest.coefficient_le, ?_, ?_⟩
        · exact hcoarsest.le.trans (Nat.le_succ t₀)
        · intro t' hlt hle
          rcases Nat.lt_or_eq_of_le hle with hle | rfl
          · exact hcoarsest.not_mem t' hlt (Nat.lt_succ_iff.mp hle)
          · exact hgrid

/-! ### Competitors -/

namespace IsCoarsest

variable {e : ℤ} {c' n : ℕ}

/-- On a grid with a point in `S` among those scanned, the scan has come to an end. -/
theorem le_of_mem (h : IsCoarsest S m t₀ c t) {t' : ℕ} (ht : t' ≤ t₀)
    (hmem : c' * (10 : ℚ) ^ t' ∈ S) : t' ≤ t := by
  by_contra hlt
  exact h.not_mem t' (Nat.lt_of_not_le hlt) ht c' hmem

/-- A point of the grid of the leading digit has one significant digit. -/
theorem precision_le_one (h : IsCoarsest S m t₀ c t) (hhigh : m < 10 ^ (t₀ + 1)) (ht : t = t₀) :
    precision ⟨c, t⟩ ≤ 1 := by
  have hdiv : m / 10 ^ t < 10 := by
    rw [Nat.div_lt_iff_lt_mul (Nat.pow_pos (by decide)), ht, ← pow_succ']
    exact hhigh
  apply (precision_le_iff Nat.one_pos).mpr
  rcases Nat.lt_or_ge c 10 with hc | hc
  · exact ⟨c, t, by rwa [pow_one], rfl⟩
  · -- the next power of ten
    have hten : c = 10 := le_antisymm (h.coefficient_le.trans hdiv) hc
    refine ⟨1, t + 1, by norm_num, ?_⟩
    rw [toRat, hten, zpow_add₀ (by norm_num)]
    push_cast
    ring

/-- A decimal on a grid that is not finer is not better. -/
theorem not_better_of_le (h : IsCoarsest S m t₀ c t) (he : t ≤ e)
    (hmem : (c' : ℚ) * 10 ^ e ∈ S) :
    |(m : ℚ) - c * 10 ^ t| ≤ |(m : ℚ) - c' * 10 ^ e| ∧
      (|(m : ℚ) - c' * 10 ^ e| = |(m : ℚ) - c * 10 ^ t| → (c' : ℚ) * 10 ^ e ≤ c * 10 ^ t) := by
  obtain ⟨k, rfl⟩ := Int.le.dest he
  have hpoint : (c' : ℚ) * 10 ^ (t + k : ℤ) = (c' * 10 ^ k : ℕ) * 10 ^ t := by
    rw [natCast_mul_zpow_add, zpow_natCast]
  rw [hpoint] at hmem ⊢
  refine ⟨h.best.nearest _ hmem, fun heq => ?_⟩
  exact mul_le_mul_of_nonneg_right (Nat.cast_le.mpr (h.best.larger _ hmem heq)) (by positivity)

/-- Below a power of ten, the point found has no more digits than fit between its grid and that
power. -/
theorem precision_le_sub (h : IsCoarsest S m t₀ c t) (hpos : ∀ q ∈ S, 0 < q) {k : ℤ}
    (hlt : (c : ℚ) * 10 ^ t < 10 ^ k) : (precision ⟨c, t⟩ : ℤ) ≤ k - t := by
  have hten : (1 : ℚ) < 10 := by norm_num
  have hc : (1 : ℚ) ≤ c := by
    have hpoint := hpos _ h.best.mem
    have hcpos : (0 : ℚ) < c := pos_of_mul_pos_left hpoint (by positivity)
    exact_mod_cast hcpos
  have hk : (t : ℤ) < k := by
    rw [← zpow_lt_zpow_iff_right₀ hten, zpow_natCast]
    exact (le_mul_of_one_le_left (by positivity) hc).trans_lt hlt
  obtain ⟨j, rfl⟩ := Int.le.dest hk.le
  have hj : 0 < j := by omega
  have hcoefficient : c < 10 ^ j := by
    rw [zpow_add₀ (by norm_num), mul_comm ((10 : ℚ) ^ (t : ℤ)), zpow_natCast, zpow_natCast] at hlt
    exact_mod_cast lt_of_mul_lt_mul_right hlt (by positivity)
  have hle : precision ⟨c, t⟩ ≤ j := (precision_le_iff hj).mpr ⟨c, t, hcoefficient, rfl⟩
  omega

/-- Where a power of ten lies between a decimal and the point found, that point has one digit, and it
is nearer than the decimal unless its grid has that power as a point. -/
theorem precision_le_one_of_between (h : IsCoarsest S m t₀ c t) (hS : S.OrdConnected)
    (hm : (m : ℚ) ∈ S) (hlow : 10 ^ t₀ ≤ m) (hhigh : m < 10 ^ (t₀ + 1)) {y : ℚ} (hy : y ∈ S) {k : ℤ}
    (hyk : y < 10 ^ k) (hk : (10 : ℚ) ^ k ≤ c * 10 ^ t) :
    precision ⟨c, t⟩ ≤ 1 ∧ (|(m : ℚ) - c * 10 ^ t| < |(m : ℚ) - y| ∨ (t : ℤ) < k) := by
  have hten : (1 : ℚ) < 10 := by norm_num
  have hlow' : (10 : ℚ) ^ (t₀ : ℤ) ≤ m := by
    rw [zpow_natCast]
    exact_mod_cast hlow
  have hhigh' : (m : ℚ) < 10 ^ (t₀ + 1 : ℤ) := by exact_mod_cast hhigh
  have hpower : (10 : ℚ) ^ k ∈ S := hS.out hy h.best.mem ⟨hyk.le, hk⟩
  rcases le_or_gt ((10 : ℚ) ^ k) m with hle | hgt
  · -- the power with the leading digit of `m` lies in `S`, so the scan has ended on the first grid
    have hk₀ : k ≤ t₀ := by
      have hlt : (10 : ℚ) ^ k < 10 ^ (t₀ + 1 : ℤ) := hle.trans_lt hhigh'
      rw [zpow_lt_zpow_iff_right₀ hten] at hlt
      omega
    have hfirst : (10 : ℚ) ^ k ≤ 10 ^ (t₀ : ℤ) := zpow_le_zpow_right₀ hten.le hk₀
    have hmem : ((1 : ℕ) : ℚ) * 10 ^ t₀ ∈ S := by
      rw [Nat.cast_one, one_mul, ← zpow_natCast]
      exact hS.out hpower hm ⟨hfirst, hlow'⟩
    have ht : t = t₀ := le_antisymm h.le (h.le_of_mem le_rfl hmem)
    refine ⟨h.precision_le_one hhigh ht, .inl ?_⟩
    rw [← ht] at hmem hfirst hlow'
    have hnearest := h.best.nearest 1 hmem
    rw [Nat.cast_one, one_mul, ← zpow_natCast,
      abs_of_nonneg (a := (m : ℚ) - 10 ^ (t : ℤ)) (by linarith)] at hnearest
    rw [abs_of_nonneg (a := (m : ℚ) - y) (by linarith), ← zpow_natCast]
    linarith
  · -- the power is the first point of the grid beyond `m`, so the point found is that power
    have hk₀ : (t : ℤ) < k := by
      have hlt : (10 : ℚ) ^ (t₀ : ℤ) < 10 ^ k := hlow'.trans_lt hgt
      rw [zpow_lt_zpow_iff_right₀ hten] at hlt
      exact (Int.ofNat_le.mpr h.le).trans_lt hlt
    have hpower' : ((1 : ℕ) : ℚ) * 10 ^ k ∈ S := by rwa [Nat.cast_one, one_mul]
    have hnearest := (h.not_better_of_le hk₀.le hpower').1
    rw [Nat.cast_one, one_mul, abs_sub_comm, abs_sub_comm (m : ℚ),
      abs_of_nonneg (a := (c : ℚ) * 10 ^ t - m) (by linarith),
      abs_of_nonneg (a := (10 : ℚ) ^ k - m) (by linarith)] at hnearest
    have hpoint : (c : ℚ) * 10 ^ t = 10 ^ k := by linarith
    refine ⟨(precision_le_iff Nat.one_pos).mpr ⟨1, k, by norm_num, ?_⟩, .inr hk₀⟩
    rw [toRat, zpow_natCast, hpoint, Nat.cast_one, one_mul]

/-- **Competitors.** Whatever decimal lies in `S` has as many significant digits as the point found or
more, and one with as many is not nearer to `m`, nor as near and larger. -/
theorem beats (h : IsCoarsest S m t₀ c t) (hS : S.OrdConnected) (hm : (m : ℚ) ∈ S)
    (hpos : ∀ q ∈ S, 0 < q) (hlow : 10 ^ t₀ ≤ m) (hhigh : m < 10 ^ (t₀ + 1)) (hn : 0 < n)
    (hc' : c' < 10 ^ n) (hmem : (c' : ℚ) * 10 ^ e ∈ S) :
    precision ⟨c, t⟩ ≤ n ∧
      (precision ⟨c, t⟩ = n →
        |(m : ℚ) - c * 10 ^ t| ≤ |(m : ℚ) - c' * 10 ^ e| ∧
          (|(m : ℚ) - c' * 10 ^ e| = |(m : ℚ) - c * 10 ^ t| →
            (c' : ℚ) * 10 ^ e ≤ c * 10 ^ t)) := by
  have hy : (c' : ℚ) * 10 ^ e < 10 ^ (n + e : ℤ) := by
    have hcast : (c' : ℚ) < 10 ^ n := by exact_mod_cast hc'
    rw [zpow_add₀ (by norm_num), zpow_natCast]
    exact mul_lt_mul_of_pos_right hcast (zpow_pos (by norm_num) e)
  have hfar := h.precision_le_one_of_between hS hm hlow hhigh hmem hy
  have hnear := h.precision_le_sub hpos (k := n + e)
  rcases lt_trichotomy e t with hfiner | heq | hcoarser
  · rcases lt_or_ge ((c : ℚ) * 10 ^ t) (10 ^ (n + e : ℤ)) with hlt | hge
    · have hless := hnear hlt
      exact ⟨by omega, fun hsame => by omega⟩
    · obtain ⟨hone, hcases⟩ := hfar hge
      refine ⟨hone.trans hn, fun hsame => ?_⟩
      rcases hcases with hcloser | hgrid
      · exact ⟨hcloser.le, fun hdist => absurd hdist hcloser.ne'⟩
      · -- a decimal of one digit on a finer grid is below that of the power
        omega
  · refine ⟨?_, fun _ => h.not_better_of_le heq.ge hmem⟩
    rcases lt_or_ge ((c : ℚ) * 10 ^ t) (10 ^ (n + e : ℤ)) with hlt | hge
    · have hless := hnear hlt
      omega
    · exact (hfar hge).1.trans hn
  · refine ⟨?_, fun _ => h.not_better_of_le hcoarser.le hmem⟩
    -- a decimal on a coarser grid is on the next one, which has been scanned unless there is none
    have ht : t = t₀ := by
      refine le_antisymm h.le ?_
      by_contra hlt
      obtain ⟨k, rfl⟩ := Int.le.dest (show ((t + 1 : ℕ) : ℤ) ≤ e by omega)
      rw [natCast_mul_zpow_add, zpow_natCast] at hmem
      have hle := h.le_of_mem (by omega) hmem
      omega
    exact (h.precision_le_one hhigh ht).trans hn

end IsCoarsest

end ReversePolish.Decimal
