import Mathlib.Data.Int.Log
import Tableaux.Proofs.Decimal.Nearest

/-!
# Rounding to binary places

A number is rounded to the last binary place that a mantissa of 53 digits has room for, and to
none below the smallest place of a float. This keeps order and sign, and it keeps numbers that such a
mantissa can hold.
-/
namespace Tableaux.Decimal

variable {p q : ℚ} {k e : ℤ}

/-- Exponent of the last place of a number that is kept. -/
def place (q : ℚ) : ℤ := max (Int.log 2 |q| - 52) (-1074)

def rounded (q : ℚ) : ℚ := nearest (q / 2 ^ place q) * 2 ^ place q

theorem two_zpow_pos (e : ℤ) : (0 : ℚ) < 2 ^ e := zpow_pos two_pos e

theorem two_zpow_add (e : ℤ) (n : ℕ) : (2 : ℚ) ^ (e + n) = 2 ^ n * 2 ^ e := by
  rw [zpow_add₀ two_ne_zero, zpow_natCast, mul_comm]

theorem place_low (q : ℚ) : -1074 ≤ place q := le_max_right _ _

theorem place_neg (q : ℚ) : place (-q) = place q := by
  rw [place, place, abs_neg]

theorem rounded_neg (q : ℚ) : rounded (-q) = -rounded q := by
  rw [rounded, rounded, place_neg, neg_div, nearest_neg, Int.cast_neg, neg_mul]

theorem rounded_zero : rounded 0 = 0 := by
  rw [rounded, zero_div, ← Int.cast_zero, nearest_intCast, Int.cast_zero, zero_mul]

theorem lt_top (hq : 0 < q) : q < 2 ^ (place q + 53) := by
  have hlog : q < 2 ^ (Int.log 2 q + 1) := Int.lt_zpow_succ_log_self one_lt_two q
  have hplace : Int.log 2 q - 52 ≤ place q := by
    rw [place, abs_of_pos hq]
    exact le_max_left _ _
  exact hlog.trans_le (zpow_le_zpow_right₀ one_le_two (by omega))

theorem bottom_le (hq : 0 < q) (h : -1074 < place q) : 2 ^ (place q + 52) ≤ q := by
  have hlog : (2 : ℚ) ^ Int.log 2 q ≤ q := Int.zpow_log_le_self one_lt_two hq
  have hplace : place q = Int.log 2 q - 52 := by
    rw [place, abs_of_pos hq] at h ⊢
    omega
  rwa [hplace, Int.sub_add_cancel]

theorem place_mono (hp : 0 < p) (h : p ≤ q) : place p ≤ place q := by
  have hlog : Int.log 2 p ≤ Int.log 2 q := Int.log_mono_right hp h
  rw [place, place, abs_of_pos hp, abs_of_pos (hp.trans_le h)]
  omega

theorem rounded_le_top (hq : 0 < q) : rounded q ≤ 2 ^ (place q + 53) := by
  have hpos := two_zpow_pos (place q)
  have hsplit : (2 : ℚ) ^ (place q + 53) = 2 ^ 53 * 2 ^ place q := two_zpow_add (place q) 53
  have hquotient : q / 2 ^ place q ≤ (2 ^ 53 : ℤ) := by
    rw [div_le_iff₀ hpos, Int.cast_pow, Int.cast_ofNat, ← hsplit]
    exact (lt_top hq).le
  have hnearest : (nearest (q / 2 ^ place q) : ℚ) ≤ 2 ^ 53 := by
    exact_mod_cast nearest_le hquotient
  rw [rounded, hsplit]
  exact mul_le_mul_of_nonneg_right hnearest hpos.le

theorem bottom_le_rounded (hq : 0 < q) (h : -1074 < place q) :
    2 ^ (place q + 52) ≤ rounded q := by
  have hpos := two_zpow_pos (place q)
  have hsplit : (2 : ℚ) ^ (place q + 52) = 2 ^ 52 * 2 ^ place q := two_zpow_add (place q) 52
  have hquotient : (2 ^ 52 : ℤ) ≤ q / 2 ^ place q := by
    rw [le_div_iff₀ hpos, Int.cast_pow, Int.cast_ofNat, ← hsplit]
    exact bottom_le hq h
  have hnearest : (2 : ℚ) ^ 52 ≤ nearest (q / 2 ^ place q) := by
    exact_mod_cast le_nearest hquotient
  rw [rounded, hsplit]
  exact mul_le_mul_of_nonneg_right hnearest hpos.le

theorem rounded_nonneg (hq : 0 ≤ q) : 0 ≤ rounded q := by
  have hpos := two_zpow_pos (place q)
  have hquotient : ((0 : ℤ) : ℚ) ≤ q / 2 ^ place q := by
    rw [Int.cast_zero]
    exact div_nonneg hq hpos.le
  have hnearest : (0 : ℚ) ≤ nearest (q / 2 ^ place q) := by exact_mod_cast le_nearest hquotient
  exact mul_nonneg hnearest hpos.le

theorem rounded_mono_pos (hp : 0 < p) (h : p ≤ q) : rounded p ≤ rounded q := by
  rcases (place_mono hp h).lt_or_eq with hplace | hplace
  · -- All of a binary order of magnitude stays below the next one.
    calc rounded p ≤ 2 ^ (place p + 53) := rounded_le_top hp
      _ ≤ 2 ^ (place q + 52) := zpow_le_zpow_right₀ one_le_two (by omega)
      _ ≤ rounded q := bottom_le_rounded (hp.trans_le h) (lt_of_le_of_lt (place_low p) hplace)
  · have hpos := two_zpow_pos (place q)
    have hnearest : (nearest (p / 2 ^ place q) : ℚ) ≤ nearest (q / 2 ^ place q) := by
      exact_mod_cast nearest_mono (div_le_div_of_nonneg_right h hpos.le)
    rw [rounded, rounded, hplace]
    exact mul_le_mul_of_nonneg_right hnearest hpos.le

theorem rounded_mono (h : p ≤ q) : rounded p ≤ rounded q := by
  rcases lt_or_ge 0 p with hp | hp
  · exact rounded_mono_pos hp h
  · rcases lt_or_ge q 0 with hq | hq
    · have hmono := rounded_mono_pos (neg_pos.mpr hq) (neg_le_neg h)
      rw [rounded_neg, rounded_neg] at hmono
      exact neg_le_neg_iff.mp hmono
    · have hnonpos : rounded p ≤ 0 := by
        have hneg := rounded_nonneg (neg_nonneg.mpr hp)
        rw [rounded_neg] at hneg
        exact neg_nonneg.mp hneg
      exact hnonpos.trans (rounded_nonneg hq)

theorem place_le (hk : |k| < 2 ^ 53) (hne : k ≠ 0) (he : -1074 ≤ e) :
    place (k * 2 ^ e) ≤ e := by
  have hpos : (0 : ℚ) < |(k : ℚ) * 2 ^ e| := by
    rw [abs_pos]
    exact mul_ne_zero (by exact_mod_cast hne) (two_zpow_pos e).ne'
  have hlog : Int.log 2 |(k : ℚ) * 2 ^ e| < e + 53 := by
    rw [← Int.lt_zpow_iff_log_lt one_lt_two hpos, abs_mul, abs_of_pos (two_zpow_pos e)]
    have hcast : |(k : ℚ)| < 2 ^ 53 := by exact_mod_cast hk
    rw [Nat.cast_ofNat, show e + 53 = e + (53 : ℕ) from rfl, two_zpow_add]
    exact mul_lt_mul_of_pos_right hcast (two_zpow_pos e)
  rw [place]
  omega

theorem rounded_eq (hk : |k| < 2 ^ 53) (he : -1074 ≤ e) :
    rounded (k * 2 ^ e) = k * 2 ^ e := by
  by_cases hzero : k = 0
  · rw [hzero, Int.cast_zero, zero_mul, rounded_zero]
  · have hplace := place_le hk hzero he
    rw [rounded]
    generalize place ((k : ℚ) * 2 ^ e) = low at hplace ⊢
    obtain ⟨n, rfl⟩ : ∃ n : ℕ, e = low + n := ⟨(e - low).toNat, by omega⟩
    have hquotient : (k : ℚ) * 2 ^ (low + n) / 2 ^ low = (k * 2 ^ n : ℤ) := by
      rw [two_zpow_add, ← mul_assoc, mul_div_cancel_right₀ _ (two_zpow_pos low).ne']
      push_cast
      rfl
    rw [hquotient, nearest_intCast, ← hquotient, div_mul_cancel₀ _ (two_zpow_pos low).ne']

end Tableaux.Decimal
