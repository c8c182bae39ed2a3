import ReversePolish.Binary64.Reading
import ReversePolish.Proofs.Binary64.Rounding
import ReversePolish.Proofs.Binary64.Value
import ReversePolish.Proofs.Decimal.Layout

/-!
# Every number is read back from its numeral

* **Values** (`ofDecimal_eq_nearest`): the number read from a decimal depends on the exact value of
  the decimal only.
* **Units of the decimal grids** (`exists_steps`): a unit of `2 ^ -1074` is a whole number of units
  of `10 ^ -1074`, and which number it is plays no part.
* **Shortest decimals** (`exists_ratio_shortest`, `ofDecimal_of_toRat_eq_shortest`): the scan
  ends on a decimal that is rounded to the magnitude it was made from, since the magnitude itself is.
* **Characters** (`exists_cons_magnitudeText`, `mem_numeral`): a magnitude begins with a digit, and a
  numeral holds nothing but digits, letters, a point and minus signs.
* **Numerals** (`ofNumeral?_numeral`): in every style the numeral of a number is read as that number,
  zeros with their signs, the infinities and the number that is not a number included.
-/

namespace ReversePolish.Binary64

variable {negative : Bool} {code num den : Nat} {d : Decimal} {style : NumeralStyle} {x : Float}

/-! ### Values -/

/-- A decimal is a ratio of units of `2 ^ -k`. -/
theorem toRat_eq_shiftLeft_div (d : Decimal) (k : Nat) :
    d.toRat = ((d.coefficient * Nat.pow 10 d.exponent.toNat) <<< k : ℕ) /
      (Nat.pow 10 (-d.exponent).toNat : ℕ) * 2 ^ (-(k : ℤ)) := by
  have htwo : (2 : ℚ) ^ k ≠ 0 := pow_ne_zero k (by norm_num)
  rw [Decimal.toRat_eq_div, Nat.shiftLeft_eq, Nat.pow_eq, Nat.pow_eq, Nat.cast_mul _ (2 ^ k),
    zpow_neg, zpow_natCast, Nat.cast_pow 2, Nat.cast_ofNat, mul_div_right_comm, mul_assoc,
    mul_inv_cancel₀ htwo, mul_one]

/-- A ratio that a decimal is equal to is the one that it is read as. -/
theorem shiftLeft_mul_eq {k : Nat} (hden : 0 < den)
    (h : d.toRat = (num : ℚ) / (den : ℚ) * 2 ^ (-(k : ℤ))) :
    (d.coefficient * Nat.pow 10 d.exponent.toNat) <<< k * den =
      num * Nat.pow 10 (-d.exponent).toNat := by
  have hpower : 0 < Nat.pow 10 (-d.exponent).toNat := Nat.pow_pos (by decide)
  have hten : ((Nat.pow 10 (-d.exponent).toNat : ℕ) : ℚ) ≠ 0 := Nat.cast_ne_zero.mpr hpower.ne'
  have hden' : (den : ℚ) ≠ 0 := Nat.cast_ne_zero.mpr hden.ne'
  rw [toRat_eq_shiftLeft_div d k] at h
  have hratio := mul_right_cancel₀ (zpow_ne_zero _ (by norm_num)) h
  rw [div_eq_div_iff hten hden'] at hratio
  exact_mod_cast hratio

/-- **Values.** A decimal is read as the rounding of any ratio of units that has its value. -/
theorem ofDecimal_eq_nearest (hden : 0 < den) (h : d.toRat = (num : ℚ) / (den : ℚ) * unit) :
    ofDecimal negative d = nearest negative num den := by
  have hratio := shiftLeft_mul_eq (k := 1074) hden h
  have hpower : 0 < Nat.pow 10 (-d.exponent).toNat := Nat.pow_pos (by decide)
  unfold ofDecimal nearest
  rw [nearestCode_congr hpower hden hratio]

/-! ### Units of the decimal grids -/

/-- The finest unit of the decimal grids: in it every magnitude is a whole number. -/
def decimalUnit : ℚ := 10 ^ (-1074 : ℤ)

theorem decimalUnit_pos : 0 < decimalUnit := zpow_pos (by norm_num) _

/-- A number of units of `10 ^ -k` as one of units of `2 ^ -k`. -/
theorem mul_zpow_neg_eq {e : ℤ} {k : ℕ} (he : e = -k) (hden : Nat.pow 5 k = den) (q : ℚ) :
    q * 10 ^ e = q / den * 2 ^ e := by
  have hten : (10 : ℚ) ^ e = 5 ^ e * 2 ^ e := by
    rw [← mul_zpow]
    norm_num
  rw [hten, he, ← hden, Nat.pow_eq, Nat.cast_pow, Nat.cast_ofNat, div_eq_mul_inv, zpow_neg 5,
    zpow_natCast, mul_assoc]

/-- A binary unit is a whole number `den` of units of the decimal grids. Nothing else is needed of
that number. -/
theorem exists_steps : ∃ den : ℕ, 0 < den ∧ (∀ c, scaled c = units c * den) ∧
    (∀ c m, readsBack c m = (nearestCode m den == c)) ∧
    ∀ q : ℚ, q * decimalUnit = q / den * unit := by
  obtain ⟨den, hden⟩ : ∃ den, Nat.pow 5 1074 = den := ⟨_, rfl⟩
  have hpos : 0 < den := by
    rw [← hden]
    apply Nat.pow_pos
    decide
  unfold scaled readsBack decimalUnit unit
  rw [hden]
  exact ⟨den, hpos, fun _ => rfl, fun _ _ => rfl, fun q => mul_zpow_neg_eq rfl hden q⟩

/-! ### Shortest decimals -/

/-- The scan of the grids ends on an accepted number when it starts from one. -/
theorem exists_accepted_coarsest {accepted : Nat → Bool} {m : Nat} (h : accepted m = true) (t : Nat) :
    ∃ p, accepted p = true ∧ (Decimal.coarsest accepted m t).toRat = p := by
  induction t with
  | zero => exact ⟨m, h, by simp [Decimal.coarsest, Decimal.toRat]⟩
  | succ t ih =>
      have hpoint : ∀ c : Nat, Decimal.toRat ⟨c, (t + 1 : ℕ)⟩ = (c * Nat.pow 10 (t + 1) : ℕ) := by
        intro c
        rw [Nat.pow_eq, Decimal.toRat]
        push_cast
        norm_cast
      unfold Decimal.coarsest
      simp only
      split
      · next hfirst => exact ⟨_, hfirst, hpoint _⟩
      · split
        · next hsecond => exact ⟨_, hsecond, hpoint _⟩
        · exact ih

/-- A finite magnitude is rounded to itself. -/
theorem readsBack_scaled (h : code < infinityCode) : readsBack code (scaled code) = true := by
  obtain ⟨den, hden, hscaled, hreads, -⟩ := exists_steps
  rw [hreads, hscaled, nearestCode_units_mul h hden, beq_self_eq_true]

/-- A decimal with a lower exponent is less by a power of ten. -/
theorem toRat_sub (d : Decimal) (k : ℤ) :
    Decimal.toRat ⟨d.coefficient, d.exponent - k⟩ = d.toRat * 10 ^ (-k) := by
  rw [Decimal.toRat, Decimal.toRat, sub_eq_add_neg, zpow_add₀ (by norm_num), mul_assoc]

/-- The shortest decimal is what the scan ends on, in units of the decimal grids. -/
theorem toRat_shortest (code : Nat) :
    (shortest code).toRat = (Decimal.coarsest (readsBack code) (scaled code)
      ((Nat.toDigits 10 (scaled code)).length - 1)).toRat * decimalUnit := by
  unfold shortest
  rw [Decimal.toRat_trim]
  exact toRat_sub _ 1074

/-- **Shortest decimals.** The shortest decimal of a magnitude is a ratio of units that is rounded to
it. -/
theorem exists_ratio_shortest (h : code < infinityCode) :
    ∃ num den, 0 < den ∧ nearestCode num den = code ∧
      (shortest code).toRat = (num : ℚ) / (den : ℚ) * unit := by
  obtain ⟨den, hden, -, hreads, hunit⟩ := exists_steps
  obtain ⟨num, hnum, hvalue⟩ := exists_accepted_coarsest (readsBack_scaled h)
    ((Nat.toDigits 10 (scaled code)).length - 1)
  rw [hreads, beq_iff_eq] at hnum
  refine ⟨num, den, hden, hnum, ?_⟩
  rw [toRat_shortest, hvalue, hunit]

/-- A decimal of the same value as the shortest one of a magnitude is read as that magnitude. -/
theorem ofDecimal_of_toRat_eq_shortest (h : code < infinityCode)
    (hd : d.toRat = (shortest code).toRat) : ofDecimal negative d = ofCode negative code := by
  obtain ⟨num, den, hden, hcode, hvalue⟩ := exists_ratio_shortest h
  rw [ofDecimal_eq_nearest hden (hd.trans hvalue), nearest, hcode]

/-! ### Characters -/

/-- A digit is a digit or a letter. -/
theorem isAlphanum_of_isDigit {c : Char} (h : c.isDigit = true) : c.isAlphanum = true := by
  rw [Char.isAlphanum, h, Bool.or_true]

/-- The text of a magnitude is its shortest decimal written out, with `.0` behind it or not, or
written with a power of ten. -/
theorem magnitudeText_cases (style : NumeralStyle) (code : Nat) :
    magnitudeText style code = (shortest code).positional ∨
    (0 ≤ (shortest code).exponent ∧
      magnitudeText style code = (shortest code).positional ++ ['.', '0']) ∨
    magnitudeText style code = (shortest code).scientific := by
  unfold magnitudeText
  simp only
  split
  · split
    · next hwhole =>
        rw [Bool.and_eq_true, decide_eq_true_eq] at hwhole
        exact .inr (.inl ⟨hwhole.2, rfl⟩)
    · exact .inl (List.append_nil _)
  · exact .inr (.inr rfl)

/-- The text of a magnitude begins with a digit. -/
theorem exists_cons_magnitudeText (style : NumeralStyle) (code : Nat) :
    ∃ c text, magnitudeText style code = c :: text ∧ c.isDigit = true := by
  rcases magnitudeText_cases style code with htext | ⟨-, htext⟩ | htext
  · rw [htext]
    exact Decimal.exists_cons_positional _
  · obtain ⟨c, text, hpositional, hc⟩ := Decimal.exists_cons_positional (shortest code)
    rw [htext, hpositional]
    exact ⟨c, _, rfl, hc⟩
  · rw [htext]
    exact Decimal.exists_cons_scientific _

/-- The text of a magnitude is made of digits, letters, a point and a minus sign. -/
theorem mem_magnitudeText {c : Char} (h : c ∈ magnitudeText style code) :
    c.isAlphanum = true ∨ c = '.' ∨ c = '-' := by
  have hpositional : c ∈ (shortest code).positional → c.isAlphanum = true ∨ c = '.' ∨ c = '-' := by
    intro hc
    rcases Decimal.mem_positional hc with hdigit | rfl
    · exact .inl (isAlphanum_of_isDigit hdigit)
    · exact .inr (.inl rfl)
  rcases magnitudeText_cases style code with htext | ⟨-, htext⟩ | htext
  · exact hpositional (htext ▸ h)
  · rw [htext] at h
    rcases List.mem_append.mp h with hc | hmark
    · exact hpositional hc
    · rcases List.mem_pair.mp hmark with rfl | rfl
      · exact .inr (.inl rfl)
      · exact .inl (by decide)
  · rw [htext] at h
    rcases Decimal.mem_scientific h with hdigit | rfl | rfl | rfl
    · exact .inl (isAlphanum_of_isDigit hdigit)
    · exact .inr (.inl rfl)
    · exact .inl (by decide)
    · exact .inr (.inr rfl)

/-- A numeral is made of digits, letters, a point and minus signs. -/
theorem mem_numeral {c : Char} (h : c ∈ numeral style x) :
    c.isAlphanum = true ∨ c = '.' ∨ c = '-' := by
  have hword : ("NaN".toList ++ "inf".toList).all Char.isAlphanum = true := by decide
  have hsign : ∀ negative, c ∈ numeral.signText negative → c = '-' := by
    intro negative hc
    cases negative with
    | false => cases hc
    | true => exact List.mem_singleton.mp hc
  unfold numeral at h
  split at h
  · exact .inl (List.all_eq_true.mp hword c (List.mem_append_left _ h))
  · rcases List.mem_append.mp h with hc | hc
    · exact .inr (.inr (hsign _ hc))
    · exact .inl (List.all_eq_true.mp hword c (List.mem_append_right _ hc))
  · rcases List.mem_append.mp h with hc | hc
    · exact .inr (.inr (hsign _ hc))
    · exact mem_magnitudeText hc

/-! ### Numerals -/

/-- The text of a magnitude is read as a decimal that has the value of its shortest one. -/
theorem exists_ofText?_magnitudeText (style : NumeralStyle) (code : Nat) :
    ∃ d, Decimal.ofText? (magnitudeText style code) = some d ∧ d.toRat = (shortest code).toRat := by
  rcases magnitudeText_cases style code with htext | ⟨hwhole, htext⟩ | htext
  · rw [htext]
    exact Decimal.ofText?_positional _
  · rw [htext]
    exact Decimal.ofText?_positional_whole hwhole
  · rw [htext]
    exact ⟨_, Decimal.ofText?_scientific _, rfl⟩

/-- The text of a finite magnitude is read as it. -/
theorem ofMagnitude?_magnitudeText (h : code < infinityCode) :
    ofMagnitude? negative (magnitudeText style code) = some (ofCode negative code) := by
  have hne : magnitudeText style code ≠ "inf".toList := by
    obtain ⟨c, text, htext, hc⟩ := exists_cons_magnitudeText style code
    rw [htext]
    rintro ⟨⟩
    exact absurd hc (by decide)
  obtain ⟨d, hd, hvalue⟩ := exists_ofText?_magnitudeText style code
  unfold ofMagnitude?
  rw [if_neg hne, hd, Option.map_some, ofDecimal_of_toRat_eq_shortest h hvalue]

/-- A numeral behind a minus sign is read as a negative magnitude. -/
theorem ofNumeral?_minus (magnitude : List Char) :
    ofNumeral? ('-' :: magnitude) = ofMagnitude? true magnitude := by
  have hnan : '-' :: magnitude ≠ "NaN".toList := by rintro ⟨⟩
  unfold ofNumeral?
  rw [if_neg hnan]
  rfl

/-- A numeral that begins with neither a minus sign nor the word for no number is read as a positive
magnitude. -/
theorem ofNumeral?_cons {c : Char} (text : List Char) (hminus : c ≠ '-') (hletter : c ≠ 'N') :
    ofNumeral? (c :: text) = ofMagnitude? false (c :: text) := by
  have hnan : c :: text ≠ "NaN".toList := by
    rintro ⟨⟩
    exact hletter rfl
  unfold ofNumeral?
  rw [if_neg hnan]
  split
  · next heq =>
      cases heq
      exact absurd rfl hminus
  · rfl

/-- A numeral with a sign is read as the magnitude behind the sign. -/
theorem ofNumeral?_signText_append {magnitude : List Char}
    (h : ∃ c text, magnitude = c :: text ∧ c ≠ '-' ∧ c ≠ 'N') :
    ofNumeral? (numeral.signText negative ++ magnitude) = ofMagnitude? negative magnitude := by
  obtain ⟨c, text, rfl, hminus, hletter⟩ := h
  cases negative with
  | false => exact ofNumeral?_cons text hminus hletter
  | true => exact ofNumeral?_minus (c :: text)

/-- **Numerals.** Every number is read back from its numeral, in every style. -/
theorem ofNumeral?_numeral (style : NumeralStyle) (x : Float) :
    ofNumeral? (numeral style x) = some x := by
  unfold numeral
  rcases cases_code x with rfl | ⟨negative, rfl⟩ | ⟨negative, c, hc, rfl⟩
  · rw [datum_nan]
    rfl
  · rw [datum_infinity]
    have hword : ∃ c text, "inf".toList = c :: text ∧ c ≠ '-' ∧ c ≠ 'N' :=
      ⟨'i', "nf".toList, rfl, by decide, by decide⟩
    simp only
    rw [ofNumeral?_signText_append hword]
    rfl
  · rw [datum_ofCode hc]
    simp only
    rw [code_ofCode hc.le, ofNumeral?_signText_append, ofMagnitude?_magnitudeText hc]
    obtain ⟨d, text, htext, hd⟩ := exists_cons_magnitudeText style c
    refine ⟨d, text, htext, ?_, ?_⟩
    · rintro rfl
      exact absurd hd (by decide)
    · rintro rfl
      exact absurd hd (by decide)

end ReversePolish.Binary64
