import Tableaux.Proofs.Decimal.Shortest

/-!
# Values that are shown as zero or one

Scaling is monotone. Where it crosses a number between two neighboring floats, the smaller of them and
all below stay below that number, and the larger and all above are above it. So there are floats from
which on another text is shown.
-/
namespace Tableaux.Decimal

open Float.Model

variable {a b x : Float} {q : ℚ} {k : ℤ}

theorem exact_scaled_le (hx : x.isFinite = true) (ha : a.isFinite = true) (h : exact x ≤ exact a) :
    exact (x * briefScale) ≤ exact (a * briefScale) := by
  rw [exact_mul hx briefScale_finite, exact_mul ha briefScale_finite, exact_briefScale]
  exact held_mono (mul_le_mul_of_nonneg_right h (by norm_num))

theorem scaled_le_iff (h : Neighbors a b) (hx : x.isFinite = true)
    (hlow : exact (a * briefScale) ≤ q) (hhigh : q < exact (b * briefScale)) :
    exact (x * briefScale) ≤ q ↔ exact x ≤ exact a := by
  refine ⟨fun hle => ?_, fun hle => (exact_scaled_le hx h.finite.1 hle).trans hlow⟩
  refine (h.split hx).resolve_right fun hge => ?_
  exact absurd (hhigh.trans_le (exact_scaled_le h.finite.2 hx hge)) hle.not_gt

theorem le_scaled_iff (h : Neighbors a b) (hx : x.isFinite = true)
    (hlow : exact (a * briefScale) < q) (hhigh : q ≤ exact (b * briefScale)) :
    q ≤ exact (x * briefScale) ↔ exact b ≤ exact x := by
  refine ⟨fun hle => ?_, fun hle => hhigh.trans (exact_scaled_le h.finite.2 hx hle)⟩
  refine (h.split hx).resolve_left fun hge => ?_
  exact absurd ((exact_scaled_le hx h.finite.1 hge).trans_lt hlow) hle.not_gt

theorem exact_half {c : Float} (n k : ℕ) (hm : 0 < n * 2 ^ k)
    (h : c.toModel.unpack = .finite .positive (n * 2 ^ k) (-(k + 1 : ℕ)) hm) : exact c = n / 2 := by
  have hpower : (2 : ℚ) ^ k ≠ 0 := pow_ne_zero k two_ne_zero
  rw [exact_of_unpack h, scaled, zpow_neg, zpow_natCast, pow_succ, Nat.cast_mul, Nat.cast_pow,
    Nat.cast_ofNat]
  field_simp

/-- Half of the last place, and the floats around what is scaled to it. -/
theorem scaled_le_half (hx : x.isFinite = true) :
    exact (x * briefScale) ≤ 1 / 2 ↔ exact x ≤ exact 5e-5 := by
  have hmiddle : exact 0.5 = 1 / 2 := by exact_mod_cast exact_half 1 52 (by decide) (by rfl)
  have hneighbors : Neighbors 5e-5 5.000000000000001e-05 :=
    ⟨by decide, 7378697629483821, -67, by decide, by rfl, by rfl⟩
  rw [← hmiddle]
  refine scaled_le_iff hneighbors hx ((le_iff (by decide) (by decide)).mp (by decide))
    ((lt_iff (by decide) (by decide)).mp (by decide))

theorem scaled_le_above_one (hx : x.isFinite = true) :
    exact (x * briefScale) ≤ 20001 / 2 ↔ exact x < exact 1.00005 := by
  have hmiddle : exact 10000.5 = 20001 / 2 := by exact_mod_cast exact_half 20001 38 (by decide) (by rfl)
  have hneighbors : Neighbors 1.0000499999999999 1.00005 :=
    ⟨by decide, 4503824807351864, -52, by decide, by rfl, by rfl⟩
  have hless : exact 1.0000499999999999 < exact 1.00005 :=
    (lt_iff (by decide) (by decide)).mp (by decide)
  rw [← hmiddle, scaled_le_iff hneighbors hx ((le_iff (by decide) (by decide)).mp (by decide))
    ((lt_iff (by decide) (by decide)).mp (by decide))]
  exact ⟨fun h => h.trans_lt hless, fun h => (hneighbors.split hx).resolve_right h.not_ge⟩

theorem below_one_le_scaled (hx : x.isFinite = true) :
    19999 / 2 ≤ exact (x * briefScale) ↔ exact 0.99995 ≤ exact x := by
  have hmiddle : exact 9999.5 = 19999 / 2 := by exact_mod_cast exact_half 19999 38 (by decide) (by rfl)
  have hneighbors : Neighbors 0.9999499999999999 0.99995 :=
    ⟨by decide, 9006748894778254, -53, by decide, by rfl, by rfl⟩
  rw [← hmiddle]
  exact le_scaled_iff hneighbors hx ((lt_iff (by decide) (by decide)).mp (by decide))
    ((le_iff (by decide) (by decide)).mp (by decide))

theorem exact_tenThousandth (n : ℕ) (h : n < 2 ^ 53) :
    exact (Float.ofNat n / briefScale) = held (n / 10000) := by
  have hfinite := isFinite_of_exact (isNaN_ofNat_float n) (exact_ofNat h) h
  rw [exact_div hfinite briefScale_finite (by rw [exact_briefScale]; norm_num), exact_ofNat h,
    exact_briefScale]

theorem held_eq_zero_iff : held (k / 10000) = 0 ↔ k = 0 := by
  have hpos : 0 < held ((1 : ℕ) / 10000) := by
    rw [← exact_tenThousandth 1 (by decide), ← exact_zero]
    exact (lt_iff (by decide) (by decide)).mp (by decide)
  have hlarge : ∀ j : ℤ, 0 < j → 0 < held (j / 10000) := by
    intro j hj
    refine hpos.trans_le (held_mono (div_le_div_of_nonneg_right ?_ (by norm_num)))
    exact_mod_cast hj
  refine ⟨fun h => ?_, fun h => by rw [h, Int.cast_zero, zero_div, held_zero]⟩
  rcases lt_trichotomy k 0 with hk | hk | hk
  · have hneg := hlarge (-k) (by omega)
    rw [Int.cast_neg, neg_div, held_neg, h] at hneg
    exact absurd hneg (by norm_num)
  · exact hk
  · exact absurd h (hlarge k hk).ne'

theorem held_eq_one_iff : held (k / 10000) = 1 ↔ k = 10000 := by
  have hbelow : held ((9999 : ℕ) / 10000) < 1 := by
    rw [← exact_tenThousandth 9999 (by decide), ← exact_one]
    exact (lt_iff (by decide) (by decide)).mp (by decide)
  have habove : 1 < held ((10001 : ℕ) / 10000) := by
    rw [← exact_tenThousandth 10001 (by decide), ← exact_one]
    exact (lt_iff (by decide) (by decide)).mp (by decide)
  have hone : held ((10000 : ℕ) / 10000) = 1 := by
    rw [← exact_tenThousandth 10000 (by decide), ← exact_one]
    exact (beq_iff (by decide) (by decide)).mp (by decide)
  refine ⟨fun h => ?_, fun h => by rw [h]; exact_mod_cast hone⟩
  rcases lt_trichotomy k 10000 with hk | hk | hk
  · refine absurd h ((held_mono (div_le_div_of_nonneg_right ?_ (by norm_num))).trans_lt hbelow).ne
    have hle : k ≤ 9999 := by omega
    exact_mod_cast hle
  · exact hk
  · refine absurd h (habove.trans_le (held_mono (div_le_div_of_nonneg_right ?_ (by norm_num)))).ne'
    have hle : 10001 ≤ k := by omega
    exact_mod_cast hle

theorem integer_eq (h : x.isFinite = true) (hi : isInteger x = true) (hlow : (k : ℚ) - 1 < exact x)
    (hhigh : exact x < k + 1) : exact x = k := by
  have hinteger := isInteger_worth h hi
  rw [← hinteger] at hlow hhigh ⊢
  have hlow' : k - 1 < nearest (exact x) := by exact_mod_cast hlow
  have hhigh' : nearest (exact x) < k + 1 := by exact_mod_cast hhigh
  exact_mod_cast (show nearest (exact x) = k by omega)

theorem shown_zero_iff (h : x.isFinite = true) :
    exact (briefValue x) = 0 ↔ |exact x| ≤ exact 5e-5 := by
  have hbound : exact 5e-5 < 1 := by
    rw [← exact_one]
    exact (lt_iff (by decide) (by decide)).mp (by decide)
  have hpos : 0 ≤ exact 5e-5 := by
    rw [← exact_zero]
    exact (le_iff (by decide) (by decide)).mp (by decide)
  rw [exact_briefValue h]
  by_cases hi : isInteger x = true
  · rw [if_pos hi]
    refine ⟨fun hzero => by rwa [hzero, abs_zero], fun hle => ?_⟩
    obtain ⟨hlow, hhigh⟩ := abs_le.mp hle
    have hinteger : exact x = (0 : ℤ) :=
      integer_eq h hi (by rw [Int.cast_zero]; linarith) (by rw [Int.cast_zero]; linarith)
    rwa [Int.cast_zero] at hinteger
  · have hplus := scaled_le_half h
    have hminus := scaled_le_half (isFinite_neg h)
    rw [exact_scaled_neg h, exact_neg (isNaN_of_finite h)] at hminus
    rw [if_neg hi, held_eq_zero_iff, nearest_even_iff (by decide), Int.cast_zero, zero_sub, zero_add,
      abs_le', ← hplus, ← hminus, neg_le]
    exact and_comm

theorem shown_one_iff (h : x.isFinite = true) :
    exact (briefValue x) = 1 ↔ exact 0.99995 ≤ exact x ∧ exact x < exact 1.00005 := by
  have hlow : 0 < exact 0.99995 ∧ exact 0.99995 ≤ 1 := by
    rw [← exact_one, ← exact_zero]
    exact ⟨(lt_iff (by decide) (by decide)).mp (by decide),
      (le_iff (by decide) (by decide)).mp (by decide)⟩
  have hhigh : 1 < exact 1.00005 ∧ exact 1.00005 < (2 : ℕ) := by
    rw [← exact_one, ← exact_ofNat (show 2 < 2 ^ 53 by decide)]
    exact ⟨(lt_iff (by decide) (by decide)).mp (by decide),
      (lt_iff (by decide) (by decide)).mp (by decide)⟩
  rw [Nat.cast_ofNat] at hhigh
  rw [exact_briefValue h]
  by_cases hi : isInteger x = true
  · rw [if_pos hi]
    refine ⟨fun hone => by rw [hone]; exact ⟨hlow.2, hhigh.1⟩, fun ⟨hle, hlt⟩ => ?_⟩
    have hinteger : exact x = (1 : ℤ) :=
      integer_eq h hi (by rw [Int.cast_one]; linarith) (by rw [Int.cast_one]; linarith)
    rwa [Int.cast_one] at hinteger
  · have hmiddle : nearest (exact (x * briefScale)) = 10000 ↔
        19999 / 2 ≤ exact (x * briefScale) ∧ exact (x * briefScale) ≤ 20001 / 2 := by
      rw [nearest_even_iff (by decide)]
      norm_num
    rw [if_neg hi, held_eq_one_iff, hmiddle, below_one_le_scaled h, scaled_le_above_one h]

theorem brief_eq (h : x.isFinite = true) : brief x = plain (briefValue x) := by
  rw [brief, if_pos h]

theorem brief_zero_iff (h : x.isFinite = true) :
    (brief x = "0" ↔ x.abs ≤ 5e-5) ∧ brief x ≠ "-0" := by
  have hnumber := isNaN_of_finite h
  rw [brief_eq h, le_iff (isNaN_abs hnumber) (by decide), exact_abs hnumber, ← shown_zero_iff h]
  by_cases hzero : exact (briefValue x) = 0
  · rw [briefValue_zero h hzero]
    exact ⟨iff_of_true (by decide +kernel) rfl, by decide +kernel⟩
  · obtain ⟨hplus, hminus, -⟩ := plain_of_ne_zero (briefValue_finite h) hzero
    exact ⟨iff_of_false hplus hzero, hminus⟩

theorem briefValue_one_iff (h : x.isFinite = true) :
    (plain (briefValue x) = "1" ↔ exact (briefValue x) = 1) ∧
      (plain (briefValue x) = "-1" ↔ exact (briefValue x) = -1) := by
  have hfinite := briefValue_finite h
  have hone : exact (-1) = -1 := by rw [exact_neg (by decide), exact_one]
  refine ⟨⟨fun htext => ?_, fun hvalue => ?_⟩, fun htext => ?_, fun hvalue => ?_⟩
  · by_cases hzero : exact (briefValue x) = 0
    · rw [briefValue_zero h hzero] at htext
      exact absurd htext (by decide +kernel)
    · exact (plain_of_ne_zero hfinite hzero).2.2.1 htext
  · have hsame : briefValue x = 1 :=
      exact_inj hfinite (by decide) (by rw [hvalue, exact_one]) (by rw [hvalue]; exact one_ne_zero)
    rw [hsame]
    decide +kernel
  · by_cases hzero : exact (briefValue x) = 0
    · rw [briefValue_zero h hzero] at htext
      exact absurd htext (by decide +kernel)
    · exact (plain_of_ne_zero hfinite hzero).2.2.2 htext
  · have hsame : briefValue x = -1 :=
      exact_inj hfinite (by decide) (by rw [hvalue, hone])
        (by rw [hvalue]; exact neg_ne_zero.mpr one_ne_zero)
    rw [hsame]
    decide +kernel

theorem brief_one_iff (h : x.isFinite = true) : brief x = "1" ↔ 0.99995 ≤ x ∧ x < 1.00005 := by
  have hnumber := isNaN_of_finite h
  rw [brief_eq h, le_iff (by decide) hnumber, lt_iff hnumber (by decide), ← shown_one_iff h]
  exact (briefValue_one_iff h).1

theorem brief_neg_one_iff (h : x.isFinite = true) :
    brief x = "-1" ↔ 0.99995 ≤ -x ∧ -x < 1.00005 := by
  have hnumber := isNaN_neg (isNaN_of_finite h)
  rw [brief_eq h, le_iff (by decide) hnumber, lt_iff hnumber (by decide),
    ← shown_one_iff (isFinite_neg h), exact_briefValue_neg h, neg_eq_iff_eq_neg]
  exact (briefValue_one_iff h).2

end Tableaux.Decimal
