import Tableaux.Proofs.Decimal.Distance
import Tableaux.Proofs.Decimal.Meaning
import Tableaux.Proofs.Decimal.Threshold

/-!
# The number that is shown

A value that is not an integer is shown as a multiple of one ten thousandth. For values of a usual size,
it is the multiple nearest to the product that is rounded. This is the one nearest to the value, unless
the product was rounded onto the middle between two multiples.
-/
namespace Tableaux.Decimal

open Float.Model

variable {v : Binary} {n multiple : ℕ} {j k p : ℤ} {q : ℚ} {x y : Float} {tie : Tie}

theorem le_held_tenThousandth : 1 / 10000 ≤ held (1 / 10000) := by
  have hread : exact 1e-4 = held (1 / 10000) := by
    have hscientific := exact_ofScientific 1 true 4
    rw [if_pos rfl, Nat.cast_one, one_mul, zpow_neg] at hscientific
    norm_num at hscientific ⊢
    exact hscientific
  have hunpack : (1e-4 : Float).toModel.unpack = .finite .positive 7378697629483821 (-66) (by decide) := by
    rfl
  rw [← hread, exact_of_unpack hunpack, scaled]
  norm_num

theorem pos_of_held (hpos : 0 < v.mantissa) (h : held (n / 10000) = scaled v.mantissa v.exponent) :
    0 < n := by
  refine Nat.pos_of_ne_zero ?_
  rintro rfl
  rw [Nat.cast_zero, zero_div, held_zero] at h
  exact (scaled_pos v.exponent hpos).ne h

theorem magnitude_ge (hpos : 0 < v.mantissa) (h : held (n / 10000) = scaled v.mantissa v.exponent) :
    -4 ≤ v.magnitude := by
  have hone : (1 : ℚ) ≤ n := by exact_mod_cast pos_of_held hpos h
  have hlow : (10 : ℚ) ^ (-4 : ℤ) < 10 ^ (v.magnitude + 1) := by
    calc (10 : ℚ) ^ (-4 : ℤ) = 1 / 10000 := by norm_num
      _ ≤ held (1 / 10000) := le_held_tenThousandth
      _ ≤ held (n / 10000) := held_mono (div_le_div_of_nonneg_right hone (by norm_num))
      _ = scaled v.mantissa v.exponent := h
      _ < 10 ^ (v.magnitude + 1) := (magnitude_bounds hpos).2
  have hlt := (zpow_lt_zpow_iff_right₀ (by norm_num)).mp hlow
  omega

/-- The shortest digits of a float that a multiple is rounded to end at the fourth place at the latest. -/
theorem shortest_tenThousandths (hv : Regular v.mantissa v.exponent) (hpos : 0 < v.mantissa)
    (he : v.exponent ≤ 971) (h : held (n / 10000) = scaled v.mantissa v.exponent) (tie : Tie) :
    ∃ k : ℕ, (v.shortest tie).value = k / 10000 := by
  have hmagnitude := magnitude_ge hpos h
  have hn : 0 < (n : ℚ) / 10000 := div_pos (by exact_mod_cast pos_of_held hpos h) (by norm_num)
  have hheld : |held (n / 10000)| < limit := by
    rw [h, abs_of_pos (scaled_pos _ hpos)]
    exact scaled_lt_limit hv he
  have hholds : (Interval.around v).holds (-4) n = true := by
    have hmultiple : (n : ℚ) * 10 ^ (-4 : ℤ) = n / 10000 := by norm_num [div_eq_mul_inv]
    rw [holds_iff, hmultiple, ← rounded_iff_contains hv hpos hn, ← held_eq_rounded hheld, h]
  obtain ⟨last, -, hnone, multiple, -, hshortest⟩ := shortest_found hv hpos tie
  -- The fourth place has a multiple, so the search has ended there if not before.
  have hlast : -4 ≤ v.magnitude - last := by
    by_contra hbelow
    have hfirst := hnone (v.magnitude + 4).toNat (by omega)
    rw [show v.magnitude - ((v.magnitude + 4).toNat : ℕ) = -4 by omega] at hfirst
    have hsome : ((Interval.around v).multiple? tie (-4)).isSome = true :=
      multiple?_of_holds hv hpos hholds
    rw [hfirst] at hsome
    cases hsome
  obtain ⟨places, hplaces⟩ : ∃ places : ℕ, v.magnitude - last = places + -4 :=
    ⟨(v.magnitude - last + 4).toNat, by omega⟩
  refine ⟨multiple * 10 ^ places, ?_⟩
  rw [hshortest, value_ofMultiple, hplaces, zpow_add₀ (by norm_num), zpow_natCast]
  push_cast
  norm_num
  ring

theorem natAbs_div (j : ℤ) : ((j.natAbs : ℕ) : ℚ) / 10000 = |(j : ℚ) / 10000| := by
  rw [abs_div, abs_of_pos (show (0 : ℚ) < 10000 by norm_num), Nat.cast_natAbs, Int.cast_abs]

/-- The text of a float that a multiple is rounded to means a multiple that is rounded to it. -/
theorem plain_tenThousandths (h : y.isFinite = true) (hy : exact y = held (j / 10000)) :
    ∃ k : ℤ, Means (plain y).toList (k / 10000) ∧ held (k / 10000) = held (j / 10000) := by
  obtain ⟨v, hv, hexact, hcases⟩ := Value.ofFloat_finite h
  obtain ⟨q, hq, hheld⟩ := plain_means h
  have hvalue : ∃ k : ℕ, (v.shortest .up).value = k / 10000 := by
    rcases hcases with ⟨hm, -⟩ | ⟨hpos, hr, he⟩
    · have hnone : v.shortest .up = ⟨[], 0⟩ := by rw [Binary.shortest, if_pos hm]
      refine ⟨0, ?_⟩
      rw [hnone, Nat.cast_zero, zero_div]
      exact zero_mul _
    · refine shortest_tenThousandths (n := j.natAbs) hr hpos he ?_ .up
      rw [natAbs_div, ← abs_held, ← hy, hexact, abs_worth]
  have hsigned : ∃ k : ℤ, q = k / 10000 := by
    obtain ⟨k, hk⟩ := hvalue
    rw [hq.unique (means_plain hv), hk]
    cases v.negative with
    | true =>
      refine ⟨-k, ?_⟩
      rw [if_pos rfl, Int.cast_neg, Int.cast_natCast, neg_div]
    | false =>
      refine ⟨k, ?_⟩
      rw [if_neg Bool.false_ne_true, Int.cast_natCast]
  obtain ⟨k, rfl⟩ := hsigned
  exact ⟨k, hq, hheld.trans hy⟩

/-- The product is the middle between two integers, but only because it was rounded. -/
def OntoMiddle (x : Float) : Prop :=
  Int.fract (exact (x * briefScale)) = 1 / 2 ∧ exact (x * briefScale) ≠ exact x * 10000

/-- What is known of the multiple of one ten thousandth that a value is shown as. -/
structure Shown (x : Float) (k : ℤ) : Prop where
  text : Means (brief x).toList (k / 10000)
  unique : ∀ q, Means (brief x).toList q → q = k / 10000
  float : held (k / 10000) = held (nearest (exact (x * briefScale)) / 10000)
  near : |exact x| < 2 ^ (39 : ℤ) → k = nearest (exact (x * briefScale))
  offMiddle : |exact x| < 2 ^ (39 : ℤ) → ¬ OntoMiddle x → k = nearest (exact x * 10000)
  onMiddle : |exact x| < 2 ^ (39 : ℤ) → OntoMiddle x →
    k = ⌊exact (x * briefScale)⌋ + ⌊exact (x * briefScale)⌋ % 2

theorem exact_product (h : x.isFinite = true) (hi : ¬ isInteger x = true) :
    exact (x * briefScale) = rounded (exact x * 10000) := by
  have hbound := (scaled_finite h hi).2.trans_lt small_lt_limit
  have hproduct : exact (x * briefScale) = held (exact x * 10000) := by
    rw [exact_mul h briefScale_finite, exact_briefScale]
  rw [hproduct] at hbound ⊢
  exact held_eq_rounded hbound

theorem nearest_product_le (h : x.isFinite = true) (hi : ¬ isInteger x = true)
    (hsmall : |exact x| < 2 ^ (39 : ℤ)) :
    |(nearest (exact (x * briefScale)) : ℚ) / 10000| ≤ 2 ^ (39 : ℤ) := by
  obtain ⟨hlow, hhigh⟩ := abs_lt.mp hsmall
  have hinteger : rounded ((2 ^ 39 * 10000 : ℤ) : ℚ) = (2 ^ 39 * 10000 : ℤ) := rounded_integer (by decide)
  have habove : rounded (exact x * 10000) ≤ (2 ^ 39 * 10000 : ℤ) := by
    rw [← hinteger]
    refine rounded_mono ?_
    norm_num at hhigh ⊢
    linarith
  have hbelow : ((-(2 ^ 39 * 10000) : ℤ) : ℚ) ≤ rounded (exact x * 10000) := by
    rw [Int.cast_neg, ← hinteger, ← rounded_neg]
    refine rounded_mono ?_
    norm_num at hlow ⊢
    linarith
  rw [exact_product h hi, abs_div, abs_of_pos (show (0 : ℚ) < 10000 by norm_num), div_le_iff₀ (by norm_num)]
  have hnearest : |nearest (rounded (exact x * 10000))| ≤ 2 ^ 39 * 10000 :=
    abs_le.mpr ⟨le_nearest hbelow, nearest_le habove⟩
  exact_mod_cast hnearest

/-- A value that is not an integer is shown as a multiple of one ten thousandth. -/
theorem shown_in_tenThousandths (h : x.isFinite = true) (hi : ¬ isInteger x = true) :
    ∃ k : ℤ, Shown x k := by
  have hvalue : exact (briefValue x) = held (nearest (exact (x * briefScale)) / 10000) := by
    rw [exact_briefValue h, if_neg hi]
  obtain ⟨k, htext, hfloat⟩ := plain_tenThousandths (briefValue_finite h) hvalue
  rw [← brief_eq h] at htext
  have hrounded : |exact x| < 2 ^ (39 : ℤ) → k = nearest (exact (x * briefScale)) :=
    fun hsmall => held_inj (nearest_product_le h hi hsmall) hfloat
  refine ⟨k, htext, fun q hq => hq.unique htext, hfloat, hrounded, fun hsmall hmiddle => ?_,
    fun hsmall hmiddle => ?_⟩
  · have hscaled : |exact x * 10000| < 2 ^ (53 : ℤ) := by
      rw [abs_mul, abs_of_pos (show (0 : ℚ) < 10000 by norm_num)]
      norm_num at hsmall ⊢
      linarith
    rw [hrounded hsmall, exact_product h hi]
    refine nearest_rounded hscaled fun hfract => ?_
    by_contra hne
    rw [OntoMiddle, exact_product h hi] at hmiddle
    exact hmiddle ⟨hfract, hne⟩
  · rw [hrounded hsmall, nearest_middle hmiddle.1]

theorem shown_in_tenThousandths_third :
    (0.3333333333333333 : Float).isFinite = true ∧ ¬ isInteger 0.3333333333333333 = true ∧
      ∃ k : ℤ, Shown 0.3333333333333333 k :=
  ⟨by decide, by decide, shown_in_tenThousandths (by decide) (by decide)⟩

/-- A product can be rounded onto a middle, and the floats can be further apart than the multiples. -/
theorem shown_off_nearest :
    ((5e-5 : Float).isFinite = true ∧ ¬ isInteger 5e-5 = true ∧
      ¬ Means (brief 5e-5).toList (nearest (exact 5e-5 * 10000) / 10000)) ∧
    ((549755813888.003 : Float).isFinite = true ∧ ¬ isInteger 549755813888.003 = true ∧
      ¬ Means (brief 549755813888.003).toList (nearest (exact 549755813888.003 * 10000) / 10000)) := by
  refine ⟨⟨by decide, by decide, fun h => ?_⟩, by decide +kernel, by decide +kernel, fun h => ?_⟩
  · have htext : (brief 5e-5).toList = [] ++ (['0'] ++ []) := by decide +kernel
    have hunpack : (5e-5 : Float).toModel.unpack = .finite .positive 7378697629483821 (-67) (by decide) := by
      rfl
    have hnearest : nearest (exact 5e-5 * 10000) = 1 := by
      apply nearest_of_near
      rw [exact_of_unpack hunpack, scaled, abs_lt]
      norm_num
    rw [htext, hnearest] at h
    have hvalue := h.unique (.decimal .unsigned (.integer (by decide) (digits_toDigits 0)) .missing)
    norm_num [Nat.ofDigitChars] at hvalue
  · have htext : (brief 549755813888.003).toList =
        [] ++ ("549755813888".toList ++ '.' :: "003".toList ++ []) := by decide +kernel
    have hunpack : (549755813888.003 : Float).toModel.unpack =
        .finite .positive 4503599627370521 (-13) (by decide) := by
      rfl
    have hnearest : nearest (exact 549755813888.003 * 10000) = 5497558138880031 := by
      apply nearest_of_near
      rw [exact_of_unpack hunpack, scaled, abs_lt]
      norm_num
    have hdigits : Nat.ofDigitChars 10 ("549755813888".toList ++ "003".toList) 0 = 549755813888003 := by
      decide +kernel
    rw [htext, hnearest] at h
    have hwhole : "549755813888".toList.all isDigit = true := by decide +kernel
    have hfraction : "003".toList.all isDigit = true := by decide +kernel
    have hlength : "003".toList.length = 3 := by decide
    have hvalue := h.unique (.decimal .unsigned (.pointed (Or.inl (by decide)) (List.all_eq_true.mp hwhole)
      (List.all_eq_true.mp hfraction)) .missing)
    rw [hdigits, hlength] at hvalue
    norm_num at hvalue

end Tableaux.Decimal
