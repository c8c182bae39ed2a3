import ReversePolish.Proofs.Binary64.Shortest
import ReversePolish.Proofs.Event.Parts

/-!
# The numbers in the text of a successful call

* **Marks** (`point_mem_positional_iff`, `exponentMark_mem_magnitudeText_iff`): a number written out has
  a point iff its exponent is negative, and the letter `e` stands in a magnitude iff its style writes it
  with a power of ten.
* **Range** (`writesOut_iff`): a style writes out the magnitudes from one power of ten on and below
  another.
* **Value** (`value?_numeral`): in every style the numeral of a finite number stands for its shortest
  decimal, with its sign.
* **Numerals** (`numerals_shortest`): the text of a number as an operand and as a result, and the text
  of a successful call made of such numerals.
-/

namespace ReversePolish

namespace Decimal

variable {d : Decimal} {n places : ℕ}

/-! ### Marks -/

/-- No digit is a point. -/
theorem point_not_mem_toDigits (n : ℕ) : '.' ∉ Nat.toDigits 10 n := by
  intro h
  exact absurd (isDigit_of_mem_toDigits h) (by decide)

/-- A number has a point when digits stand behind it. -/
theorem point_mem_pointed_iff : '.' ∈ pointed n places ↔ places ≠ 0 := by
  unfold pointed
  rw [List.mem_append, or_iff_right (point_not_mem_toDigits _)]
  split
  · next hzero => exact iff_of_false List.not_mem_nil (not_not_intro hzero)
  · next hplaces => exact iff_of_true List.mem_cons_self hplaces

/-- A number written out has a point iff its exponent is negative. -/
theorem point_mem_positional_iff : '.' ∈ d.positional ↔ d.exponent < 0 := by
  unfold positional
  split
  · next hwhole =>
      rw [point_mem_pointed_iff]
      omega
  · next hfraction =>
      rw [point_mem_pointed_iff]
      omega

/-- A number written out has no power of ten. -/
theorem exponentMark_not_mem_positional (d : Decimal) : 'e' ∉ d.positional := by
  intro h
  rcases mem_positional h with hdigit | hpoint
  · exact absurd hdigit (by decide)
  · exact absurd hpoint (by decide)

/-- A number with a power of ten shows it. -/
theorem exponentMark_mem_scientific (d : Decimal) : 'e' ∈ d.scientific := by
  unfold scientific
  exact List.mem_append_right _ List.mem_cons_self

/-! ### Value -/

/-- A text that does not begin with a minus sign stands for what it does as a magnitude. -/
theorem value?_cons {c : Char} (text : List Char) (hc : c ≠ '-') :
    value? (c :: text) = (ofText? (c :: text)).map toRat := by
  unfold value?
  split
  · next heq =>
      cases heq
      exact absurd rfl hc
  · rfl

end Decimal

namespace Binary64

variable {style : NumeralStyle} {negative : Bool} {c : ℕ} {x : Float} {q : ℚ}

/-- No sign is a point or the mark of a power of ten. -/
theorem mem_signText_append_iff {mark : Char} (hmark : mark ≠ '-') (text : List Char) :
    mark ∈ numeral.signText negative ++ text ↔ mark ∈ text := by
  rw [List.mem_append, or_iff_right]
  cases negative with
  | false => exact List.not_mem_nil
  | true => exact mt List.mem_singleton.mp hmark

/-- The numeral of a finite number is its sign and the text of its magnitude. -/
theorem numeral_ofCode (style : NumeralStyle) (negative : Bool) (hc : c < infinityCode) :
    numeral style (ofCode negative c) = numeral.signText negative ++ magnitudeText style c := by
  unfold numeral
  rw [datum_ofCode hc, code_ofCode hc.le]

/-- The text of a magnitude that the style writes out. -/
theorem magnitudeText_of_writesOut (h : style.writesOut (scaled c) = true) :
    magnitudeText style c = (shortest c).positional ++
      if style.marksWhole && 0 ≤ (shortest c).exponent then ['.', '0'] else [] :=
  if_pos h

/-- The text of a magnitude that the style does not write out. -/
theorem magnitudeText_of_not_writesOut (h : ¬ style.writesOut (scaled c) = true) :
    magnitudeText style c = (shortest c).scientific :=
  if_neg h

/-- **Marks.** A power of ten stands in the magnitudes that the style does not write out. -/
theorem exponentMark_mem_magnitudeText_iff :
    'e' ∈ magnitudeText style c ↔ ¬ style.writesOut (scaled c) = true := by
  constructor
  · intro hmem hout
    rw [magnitudeText_of_writesOut hout] at hmem
    rcases List.mem_append.mp hmem with hdigits | hwhole
    · exact Decimal.exponentMark_not_mem_positional _ hdigits
    · split at hwhole
      · exact absurd hwhole (by decide)
      · cases hwhole
  · intro hout
    rw [magnitudeText_of_not_writesOut hout]
    exact Decimal.exponentMark_mem_scientific _

/-- **Marks.** Where whole numbers are not marked, a point stands in the magnitudes written out that are
not whole. -/
theorem point_mem_magnitudeText_iff (hout : style.writesOut (scaled c) = true)
    (hmarks : style.marksWhole = false) :
    '.' ∈ magnitudeText style c ↔ (shortest c).exponent < 0 := by
  rw [magnitudeText_of_writesOut hout, hmarks]
  simp only [Bool.false_and, Bool.false_eq_true, if_false, List.append_nil]
  exact Decimal.point_mem_positional_iff

/-- **Marks.** Where whole numbers are marked, a point stands in every magnitude written out. -/
theorem point_mem_magnitudeText (hout : style.writesOut (scaled c) = true)
    (hmarks : style.marksWhole = true) : '.' ∈ magnitudeText style c := by
  rw [magnitudeText_of_writesOut hout, hmarks, List.mem_append]
  by_cases hwhole : 0 ≤ (shortest c).exponent
  · right
    simp [hwhole]
  · exact .inl (Decimal.point_mem_positional_iff.mpr (Int.lt_of_not_ge hwhole))

/-- The shortest decimal of a magnitude is whole iff its exponent is not negative. -/
theorem exists_toRat_shortest_iff (c : ℕ) :
    (∃ n : ℕ, (shortest c).toRat = n) ↔ 0 ≤ (shortest c).exponent := by
  unfold shortest
  rw [Decimal.toRat_trim]
  exact Decimal.exists_toRat_eq_natCast_iff

/-! ### Range -/

/-- A power of ten in units of the decimal grids. -/
theorem natPow_le_iff {e : ℤ} (he : -1074 ≤ e) (m : ℕ) :
    Nat.pow 10 (1074 + e).toNat ≤ m ↔ (10 : ℚ) ^ e ≤ m * decimalUnit := by
  obtain ⟨k, hk⟩ := Int.eq_ofNat_of_zero_le (by omega : 0 ≤ 1074 + e)
  have hpower : (10 : ℚ) ^ e = (10 ^ k : ℕ) * decimalUnit := by
    rw [Nat.cast_pow, ← zpow_natCast, Nat.cast_ofNat, decimalUnit, ← zpow_add₀ (by norm_num), ← hk]
    congr 1
    omega
  rw [hk, hpower, mul_le_mul_iff_of_pos_right decimalUnit_pos, Nat.cast_le]
  rfl

/-- **Range.** A style writes out the magnitudes from one power of ten on and below another. -/
theorem writesOut_iff {lo hi : ℤ} {marksWhole : Bool} (hlo : -1074 ≤ lo) (hhi : -1074 ≤ hi) {m : ℕ}
    (hm : 0 < m) : NumeralStyle.writesOut ⟨some (lo, hi), marksWhole⟩ m = true ↔
      (10 : ℚ) ^ lo ≤ m * decimalUnit ∧ m * decimalUnit < 10 ^ hi := by
  rw [← natPow_le_iff hlo, ← not_le, ← natPow_le_iff hhi]
  unfold NumeralStyle.writesOut
  simp [hm.ne']

/-! ### Value -/

/-- **Value.** In every style the numeral of a finite number stands for its shortest decimal, with its
sign. -/
theorem value?_numeral (style : NumeralStyle) (negative : Bool) (hc : c < infinityCode) :
    Decimal.value? (numeral style (ofCode negative c)) =
      some (signed negative (shortest c).toRat) := by
  obtain ⟨d, hd, hvalue⟩ := exists_ofText?_magnitudeText style c
  rw [numeral_ofCode style negative hc, ← hvalue]
  cases negative with
  | false =>
      obtain ⟨digit, text, htext, hdigit⟩ := exists_cons_magnitudeText style c
      have hminus : digit ≠ '-' := by
        rintro rfl
        exact absurd hdigit (by decide)
      rw [htext] at hd
      show Decimal.value? (magnitudeText style c) = some d.toRat
      rw [htext, Decimal.value?_cons text hminus, hd]
      rfl
  | true =>
      show (Decimal.ofText? (magnitudeText style c)).map (fun d => -d.toRat) = some (-d.toRat)
      rw [hd]
      rfl

end Binary64

namespace Event

open Binary64

/-- **Numerals.** The text of a successful call is the numerals of its operands and of its result,
with the marks of the event between them. As an operand and as a result, a finite number other than
zero is written as one decimal with its sign: the shortest that is read as the number, the nearest
of those, the larger of two equally near. A result has no power of ten, and a point just when it is
not whole. An operand has a power of ten just when it is below `10 ^ -4` or from `10 ^ 16` on, and
otherwise a point. -/
theorem numerals_shortest {x : Float} {q : ℚ} (hx : toRat? x = some q) (hq : q ≠ 0) :
    (∀ (op : Operator) (args : List Float) (y : Float),
      (applied op args y).text.toList =
        op.token.toList ++ ' ' :: '[' ::
          ([',', ' '].intercalate (args.map (numeral operandStyle)) ++
            ']' :: ' ' :: '-' :: '>' :: ' ' :: numeral resultStyle y)) ∧
    ∃ d : Decimal, IsShortest x q d ∧
      Decimal.value? (numeral operandStyle x) = some (signed (isNegative x) d.toRat) ∧
      Decimal.value? (numeral resultStyle x) = some (signed (isNegative x) d.toRat) ∧
      'e' ∉ numeral resultStyle x ∧
      ('.' ∈ numeral resultStyle x ↔ ¬ ∃ n : ℕ, d.toRat = n) ∧
      ('e' ∈ numeral operandStyle x ↔ |q| < 10 ^ (-4 : ℤ) ∨ (10 : ℚ) ^ (16 : ℤ) ≤ |q|) ∧
      ('e' ∈ numeral operandStyle x ∨ '.' ∈ numeral operandStyle x) := by
  obtain ⟨negative, c, hc, rfl, rfl⟩ := exists_code_of_toRat?_eq_some hx
  have hunits : 0 < units c := by
    apply Nat.pos_of_ne_zero
    intro hzero
    rw [hzero, Nat.cast_zero, ← signed_mul, zero_mul] at hq
    exact hq (by cases negative <;> simp [signed])
  have hscaled : 0 < scaled c := by
    obtain ⟨den, hden, hscaled, -⟩ := exists_steps
    rw [hscaled]
    exact Nat.mul_pos hunits hden
  have hmagnitude : |signed negative (units c) * unit| = scaled c * decimalUnit := by
    rw [abs_mul, abs_signed, Nat.abs_cast, abs_of_pos unit_pos, units_mul_unit]
  have hrange : operandStyle.writesOut (scaled c) = true ↔
      (10 : ℚ) ^ (-4 : ℤ) ≤ scaled c * decimalUnit ∧ scaled c * decimalUnit < 10 ^ (16 : ℤ) :=
    writesOut_iff (by decide) (by decide) hscaled
  refine ⟨toList_text_applied, shortest c, isShortest_shortest negative hc hunits, ?_, ?_, ?_, ?_, ?_, ?_⟩
  · rw [isNegative_ofCode hc.le]
    exact value?_numeral operandStyle negative hc
  · rw [isNegative_ofCode hc.le]
    exact value?_numeral resultStyle negative hc
  · rw [numeral_ofCode _ _ hc, mem_signText_append_iff (by decide),
      exponentMark_mem_magnitudeText_iff]
    exact not_not_intro rfl
  · rw [numeral_ofCode _ _ hc, mem_signText_append_iff (by decide),
      point_mem_magnitudeText_iff rfl rfl, exists_toRat_shortest_iff, not_le]
  · rw [numeral_ofCode _ _ hc, mem_signText_append_iff (by decide),
      exponentMark_mem_magnitudeText_iff, hrange, hmagnitude, not_and_or, not_le, not_lt]
  · rw [numeral_ofCode _ _ hc, mem_signText_append_iff (by decide),
      mem_signText_append_iff (by decide), exponentMark_mem_magnitudeText_iff]
    exact (Classical.em _).symm.imp_right fun hout => point_mem_magnitudeText hout rfl

/-- Halfway between two decimals of seventeen digits, the larger one is written. -/
theorem numerals_shortest_halfway :
    toRat? 1000000000000000.25 = some (4000000000000001 / 4) ∧ (4000000000000001 / 4 : ℚ) ≠ 0 ∧
      ∃ d : Decimal, IsShortest 1000000000000000.25 (4000000000000001 / 4) d ∧
        d.toRat = 10000000000000003 / 10 ∧
        ('e' ∈ numeral operandStyle 1000000000000000.25 ∨
          '.' ∈ numeral operandStyle 1000000000000000.25) := by
  have hvalue : toRat? 1000000000000000.25 = some (4000000000000001 / 4) := by decide +kernel
  have hne : (4000000000000001 / 4 : ℚ) ≠ 0 := by norm_num
  have htext : Decimal.value? (numeral resultStyle 1000000000000000.25) =
      some (10000000000000003 / 10) := by decide +kernel
  have hsign : isNegative 1000000000000000.25 = false := by decide +kernel
  obtain ⟨-, d, hd, -, hresult, -, -, -, hmarks⟩ := numerals_shortest hvalue hne
  rw [htext, hsign] at hresult
  exact ⟨hvalue, hne, d, hd, (Option.some.inj hresult).symm, hmarks⟩

end Event

end ReversePolish
