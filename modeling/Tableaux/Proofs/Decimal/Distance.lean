import Tableaux.Proofs.Decimal.Brief

/-!
# The distance to a rounded number

A number is rounded by at most half of its last place. So numbers that are further apart stay different.
While half integers are floats, a number is rounded onto one at most, but not across it.
-/
namespace Tableaux.Decimal

variable {p q : ℚ} {j k n : ℤ}

theorem rounded_error (hn : -1021 ≤ n) (h : |q| < 2 ^ n) : |rounded q - q| ≤ 2 ^ (n - 54) := by
  by_cases hzero : q = 0
  · rw [hzero, rounded_zero, sub_zero, abs_zero]
    exact (two_zpow_pos _).le
  · have hplace : place q ≤ n - 53 := by
      have hlog := (Int.lt_zpow_iff_log_lt one_lt_two (abs_pos.mpr hzero)).mp h
      rw [place]
      omega
    have hunit := two_zpow_pos (place q)
    have hdifference : rounded q - q = (nearest (q / 2 ^ place q) - q / 2 ^ place q) * 2 ^ place q := by
      rw [rounded, sub_mul, div_mul_cancel₀ _ hunit.ne']
    calc |rounded q - q| ≤ 1 / 2 * 2 ^ place q := by
          rw [hdifference, abs_mul, abs_of_pos hunit]
          exact mul_le_mul_of_nonneg_right (nearest_error _) hunit.le
      _ = 2 ^ (place q - 1) := by
          rw [zpow_sub_one₀ two_ne_zero]
          ring
      _ ≤ 2 ^ (n - 54) := zpow_le_zpow_right₀ one_le_two (by omega)

theorem held_eq_rounded (h : |held q| < limit) : held q = rounded q := by
  obtain ⟨hlow, hhigh⟩ := abs_lt.mp h
  rw [held] at *
  have hmin := (lt_max_iff.mp hlow).resolve_left (lt_irrefl _)
  rw [max_eq_right hmin.le] at *
  exact min_eq_right ((min_lt_iff.mp hhigh).resolve_left (lt_irrefl _)).le

theorem held_error (hn : -1021 ≤ n) (hhigh : n ≤ 971) (h : |q| < 2 ^ n) : |held q - q| ≤ 2 ^ (n - 54) := by
  have hheld : |held q| < limit := by
    rw [abs_held]
    refine (held_mono h.le).trans_lt ?_
    rw [held_two_zpow (by omega) hhigh]
    exact zpow_lt_zpow_right₀ one_lt_two (by omega)
  rw [held_eq_rounded hheld]
  exact rounded_error hn h

/-- Multiples of one ten thousandth are rounded to different floats, as long as these are dense enough. -/
theorem held_inj (hj : |(j : ℚ) / 10000| ≤ 2 ^ (39 : ℤ)) (h : held (k / 10000) = held (j / 10000)) :
    k = j := by
  have herror : |held (j / 10000) - j / 10000| ≤ 2 ^ ((39 : ℤ) - 54) := by
    rcases hj.lt_or_eq with hlt | heq
    · exact held_error (by decide) (by decide) hlt
    · have hkept : held (j / 10000) = j / 10000 := by
        have hpower : held (2 ^ (39 : ℤ)) = 2 ^ (39 : ℤ) := held_two_zpow (by decide) (by decide)
        rcases (abs_eq (two_zpow_pos _).le).mp heq with hside | hside <;> rw [hside]
        · exact hpower
        · rw [held_neg, hpower]
      rw [hkept, sub_self, abs_zero]
      exact (two_zpow_pos _).le
  have hk : |(k : ℚ) / 10000| < 2 ^ (40 : ℤ) := by
    by_contra hge
    have hmono := held_mono (not_lt.mp hge)
    have hmono' := held_mono hj
    rw [held_two_zpow (by decide) (by decide), ← abs_held] at hmono hmono'
    rw [h] at hmono
    norm_num at hmono hmono'
    linarith
  have herror' := held_error (by decide) (by decide) hk
  rw [h] at herror'
  have hclose : |(k : ℚ) / 10000 - j / 10000| < 1 / 10000 := by
    calc |(k : ℚ) / 10000 - j / 10000|
        ≤ |(k : ℚ) / 10000 - held (j / 10000)| + |held (j / 10000) - j / 10000| := abs_sub_le _ _ _
      _ ≤ 2 ^ ((40 : ℤ) - 54) + 2 ^ ((39 : ℤ) - 54) := add_le_add (by rwa [abs_sub_comm]) herror
      _ < 1 / 10000 := by norm_num
  rw [← sub_div, abs_div, abs_of_pos (show (0 : ℚ) < 10000 by norm_num),
    div_lt_div_iff_of_pos_right (by norm_num), ← Int.cast_sub, ← Int.cast_abs] at hclose
  have hless : |k - j| < 1 := by exact_mod_cast hclose
  exact sub_eq_zero.mp (Int.abs_lt_one_iff.mp hless)

theorem rounded_half (hj : |j| < 2 ^ 53) : rounded (j / 2) = j / 2 := by
  have hkept := rounded_eq (e := -1) hj (by decide)
  rwa [zpow_neg_one, ← div_eq_mul_inv] at hkept

theorem rounded_integer (hj : |j| < 2 ^ 53) : rounded j = j := by
  have hkept := rounded_eq (e := 0) hj (by decide)
  rwa [zpow_zero, mul_one] at hkept

theorem rounded_le_middle (hq : q < 2 ^ (52 : ℤ)) (hk : |k| ≤ 2 ^ 52) (h : q ≤ k + 1 / 2) :
    rounded q ≤ k + 1 / 2 := by
  obtain ⟨hlow, hhigh⟩ := abs_le.mp hk
  rcases hhigh.lt_or_eq with hlt | rfl
  · have hmiddle : ((2 * k + 1 : ℤ) : ℚ) / 2 = k + 1 / 2 := by
      push_cast
      ring
    have hhalf := rounded_half (j := 2 * k + 1) (by rw [abs_lt]; omega)
    rw [hmiddle] at hhalf
    exact hhalf ▸ rounded_mono h
  · have hinteger : rounded ((2 ^ 52 : ℤ) : ℚ) = (2 ^ 52 : ℤ) := rounded_integer (by decide)
    calc rounded q ≤ rounded ((2 ^ 52 : ℤ) : ℚ) := rounded_mono (by exact_mod_cast hq.le)
      _ = (2 ^ 52 : ℤ) := hinteger
      _ ≤ (2 ^ 52 : ℤ) + 1 / 2 := by norm_num

/-- The nearest integer is kept when a number is rounded, unless it is rounded onto the middle between
two integers. -/
theorem nearest_rounded_small (h : |q| < 2 ^ (52 : ℤ))
    (hmiddle : Int.fract (rounded q) = 1 / 2 → rounded q = q) : nearest (rounded q) = nearest q := by
  obtain ⟨hlow, hhigh⟩ := abs_lt.mp h
  obtain ⟨herror, herror'⟩ := abs_le.mp (nearest_error q)
  have hbound : |nearest q| ≤ 2 ^ 52 := by
    rw [abs_le]
    exact ⟨le_nearest (by push_cast; exact hlow.le), nearest_le (by push_cast; exact hhigh.le)⟩
  have habove := rounded_le_middle hhigh hbound (by linarith)
  have hbelow := rounded_le_middle (q := -q) (k := -nearest q) (by linarith) (by rwa [abs_neg])
    (by push_cast; linarith)
  rw [rounded_neg] at hbelow
  push_cast at hbelow
  have hsides : Int.fract (rounded q) = 1 / 2 → nearest (rounded q) = nearest q := fun heq => by
    rw [hmiddle heq]
  rcases habove.lt_or_eq with hless | heq
  · rcases hbelow.lt_or_eq with hmore | heq
    · exact nearest_of_near (abs_lt.mpr ⟨by linarith, by linarith⟩)
    · refine hsides (Int.fract_eq_iff.mpr ⟨by norm_num, by norm_num, nearest q - 1, ?_⟩)
      push_cast
      linarith
  · refine hsides (Int.fract_eq_iff.mpr ⟨by norm_num, by norm_num, nearest q, ?_⟩)
    linarith

theorem nearest_rounded (h : |q| < 2 ^ (53 : ℤ)) (hmiddle : Int.fract (rounded q) = 1 / 2 → rounded q = q) :
    nearest (rounded q) = nearest q := by
  rcases lt_or_ge |q| (2 ^ (52 : ℤ)) with hsmall | hlarge
  · exact nearest_rounded_small hsmall hmiddle
  · have hpos : 0 < |q| := (two_zpow_pos _).trans_le hlarge
    have hlow := (Int.zpow_le_iff_le_log one_lt_two hpos).mp hlarge
    have hhigh := (Int.lt_zpow_iff_log_lt one_lt_two hpos).mp h
    have hplace : place q = 0 := by
      rw [place]
      omega
    rw [rounded, hplace, zpow_zero, div_one, mul_one, nearest_intCast]

end Tableaux.Decimal
