import Tableaux.Decimal.Shortest
import Tableaux.Proofs.Decimal.Neighbor

/-!
# The interval around a float

The interval contains exactly the numbers that are rounded to the float. Whether it holds a multiple of
a power of ten is decided with natural numbers.
-/
namespace Tableaux.Decimal

variable {m multiple : ℕ} {e k p : ℤ} {q : ℚ} {i : Interval} {v : Binary}

theorem ten_zpow_pos (place : ℤ) : (0 : ℚ) < 10 ^ place := zpow_pos (by norm_num) place

theorem natPow_toNat (b : ℕ) (hb : b ≠ 0) (k : ℤ) :
    ((Nat.pow b k.toNat : ℕ) : ℚ) = b ^ k * (Nat.pow b (-k).toNat : ℕ) := by
  have hne : (b : ℚ) ≠ 0 := by exact_mod_cast hb
  have hplus : ((Nat.pow b k.toNat : ℕ) : ℚ) = b ^ k.toNat := Nat.cast_pow b _
  have hminus : ((Nat.pow b (-k).toNat : ℕ) : ℚ) = b ^ (-k).toNat := Nat.cast_pow b _
  rw [hplus, hminus, ← zpow_natCast, ← zpow_natCast, ← zpow_add₀ hne]
  congr 1
  omega

theorem scale_pos (i : Interval) (p : ℤ) : 0 < (i.scale p).binary ∧ 0 < (i.scale p).decimal :=
  ⟨Nat.mul_pos (Nat.two_pow_pos _) (Nat.pow_pos (by decide)),
    Nat.mul_pos (Nat.pow_pos (by decide)) (Nat.two_pow_pos _)⟩

/-- The factors of a scale are in the ratio of the units of the bounds and of the multiples. -/
theorem scale_eq (i : Interval) (p : ℤ) :
    ((i.scale p).decimal : ℚ) * 2 ^ i.exponent = (i.scale p).binary * 10 ^ p := by
  rw [Interval.scale]
  dsimp only
  rw [Nat.cast_mul, Nat.cast_mul, natPow_toNat 10 (by decide) p,
    natPow_toNat 2 (by decide) i.exponent, Nat.cast_ofNat, Nat.cast_ofNat]
  ring

theorem scale_le_iff (i : Interval) (p : ℤ) (bound multiple : ℕ) :
    (bound * (i.scale p).binary ≤ multiple * (i.scale p).decimal ↔
      (bound : ℚ) * 2 ^ i.exponent ≤ multiple * 10 ^ p) ∧
    (multiple * (i.scale p).decimal ≤ bound * (i.scale p).binary ↔
      (multiple : ℚ) * 10 ^ p ≤ bound * 2 ^ i.exponent) := by
  have hscale := scale_eq i p
  have hbinary : (0 : ℚ) < (i.scale p).binary := by exact_mod_cast (scale_pos i p).1
  have hunit := two_zpow_pos i.exponent
  have hbound : (bound : ℚ) * 2 ^ i.exponent * (i.scale p).binary =
      (bound * (i.scale p).binary : ℕ) * 2 ^ i.exponent := by
    push_cast
    ring
  have hmultiple : (multiple : ℚ) * 10 ^ p * (i.scale p).binary =
      (multiple * (i.scale p).decimal : ℕ) * 2 ^ i.exponent := by
    push_cast
    linear_combination -(multiple : ℚ) * hscale
  constructor
  · rw [← mul_le_mul_iff_left₀ hbinary, hbound, hmultiple, mul_le_mul_iff_left₀ hunit, Nat.cast_le]
  · rw [← mul_le_mul_iff_left₀ hbinary, hbound, hmultiple, mul_le_mul_iff_left₀ hunit, Nat.cast_le]

/-- The interval contains a number, which is measured in the unit of the bounds. -/
def Interval.Contains (i : Interval) (q : ℚ) : Prop :=
  if i.closed then (i.low : ℚ) ≤ q / 2 ^ i.exponent ∧ q / 2 ^ i.exponent ≤ i.high
  else (i.low : ℚ) < q / 2 ^ i.exponent ∧ q / 2 ^ i.exponent < i.high

theorem holds_iff : i.holds p multiple = true ↔ i.Contains (multiple * 10 ^ p) := by
  have hunit := two_zpow_pos i.exponent
  obtain ⟨hlow, hlow'⟩ := scale_le_iff i p i.low multiple
  obtain ⟨hhigh', hhigh⟩ := scale_le_iff i p i.high multiple
  unfold Interval.holds Interval.Contains
  dsimp only
  split
  · rw [Bool.and_eq_true, decide_eq_true_iff, decide_eq_true_iff, le_div_iff₀ hunit, div_le_iff₀ hunit,
      hlow, hhigh]
  · rw [Bool.and_eq_true, decide_eq_true_iff, decide_eq_true_iff, lt_div_iff₀ hunit, div_lt_iff₀ hunit,
      ← not_le, ← not_le, ← not_le, ← not_le, hlow', hhigh']

theorem Interval.Contains.between {i : Interval} {a b c : ℚ} (ha : i.Contains a) (hb : i.Contains b)
    (hlow : a ≤ c) (hhigh : c ≤ b) : i.Contains c := by
  have hunit := (two_zpow_pos i.exponent).le
  have hlow' := div_le_div_of_nonneg_right hlow hunit
  have hhigh' := div_le_div_of_nonneg_right hhigh hunit
  unfold Interval.Contains at *
  split
  · rename_i hclosed
    rw [if_pos hclosed] at ha hb
    exact ⟨ha.1.trans hlow', hhigh'.trans hb.2⟩
  · rename_i hopen
    rw [if_neg hopen] at ha hb
    exact ⟨ha.1.trans_le hlow', hhigh'.trans_lt hb.2⟩

theorem scaled_quarter (m : ℕ) (e : ℤ) : scaled m e = (4 * m : ℕ) * 2 ^ (e - 2) := by
  rw [← scaled_double, ← scaled_double, scaled]
  congr 1
  · push_cast
    ring
  · congr 1
    ring

theorem rounded_eq_iff_nearest (hplace : place q = e) :
    rounded q = scaled m e ↔ nearest (q / 2 ^ e) = m := by
  rw [rounded, hplace, scaled, mul_left_inj' (two_zpow_pos e).ne']
  exact_mod_cast Iff.rfl

theorem two_zpow_le_iff (n : ℕ) : (2 : ℚ) ^ (e + n) ≤ q ↔ 2 ^ n ≤ q / 2 ^ e := by
  rw [two_zpow_add, le_div_iff₀ (two_zpow_pos e)]

theorem lt_two_zpow_iff (n : ℕ) : q < (2 : ℚ) ^ (e + n) ↔ q / 2 ^ e < 2 ^ n := by
  rw [two_zpow_add, div_lt_iff₀ (two_zpow_pos e)]

theorem scaled_le_two_zpow (n : ℕ) : scaled m e ≤ 2 ^ (e + n) ↔ m ≤ 2 ^ n := by
  rw [two_zpow_add, scaled, mul_le_mul_iff_left₀ (two_zpow_pos e)]
  exact_mod_cast Iff.rfl

theorem div_two_zpow_add (q : ℚ) (e : ℤ) (n : ℕ) : q / 2 ^ (e + n) = q / 2 ^ e / 2 ^ n := by
  rw [two_zpow_add, div_mul_eq_div_div_swap]

theorem div_quarter (q : ℚ) (e : ℤ) : q / 2 ^ e = q / 2 ^ (e - 2) / 4 := by
  rw [show e = e - 2 + (2 : ℕ) by omega, div_two_zpow_add, show e - 2 + (2 : ℕ) - 2 = e - 2 by omega]
  norm_num

theorem bounds_of_contains (h : (Interval.around v).Contains q) :
    ((4 * v.mantissa - 2 : ℕ) : ℚ) ≤ q / 2 ^ (v.exponent - 2) ∧
      q / 2 ^ (v.exponent - 2) ≤ (4 * v.mantissa + 2 : ℕ) := by
  have hle : (((4 * v.mantissa - 2 : ℕ) : ℚ)) ≤ (Interval.around v).low := by
    unfold Interval.around
    dsimp only
    split <;> exact_mod_cast (by omega)
  unfold Interval.Contains at h
  split at h
  · exact ⟨hle.trans h.1, h.2⟩
  · exact ⟨hle.trans h.1.le, h.2.le⟩

theorem rounded_iff_of_place_eq (hpos : 0 < v.mantissa) (hq : 0 < q) (hplace : place q = v.exponent) :
    rounded q = scaled v.mantissa v.exponent ↔ (Interval.around v).Contains q := by
  obtain ⟨negative, m, e⟩ := v
  dsimp only at *
  have hone : 1 ≤ 4 * m := by omega
  have htwo : 2 ≤ 4 * m := by omega
  rw [rounded_eq_iff_nearest hplace, div_quarter]
  unfold Interval.Contains Interval.around
  dsimp only
  generalize ht : q / 2 ^ (e - 2) = t
  rcases Nat.mod_two_eq_zero_or_one m with heven | hodd
  · rw [nearest_even_iff (by omega), heven, if_pos (by decide)]
    split
    · rename_i hpower
      -- All numbers with this place are above a power of two.
      have hreach : (4 * m : ℚ) ≤ t := by
        have hbottom := bottom_le hq (hplace ▸ hpower.2)
        rw [hplace, show e + 52 = e - 2 + (54 : ℕ) by omega, two_zpow_le_iff, ht] at hbottom
        have hmantissa : (m : ℚ) = 2 ^ 52 := by exact_mod_cast hpower.1
        rw [hmantissa]
        linarith
      push_cast [Nat.cast_sub hone]
      constructor <;> rintro ⟨-, hhigh⟩ <;> constructor <;> linarith
    · push_cast [Nat.cast_sub htwo]
      constructor <;> rintro ⟨hlow, hhigh⟩ <;> constructor <;> linarith
  · have hother : ¬ (m = Nat.pow 2 52 ∧ -1074 < e) := by
      rintro ⟨rfl, -⟩
      exact absurd hodd (by decide)
    rw [nearest_odd_iff (by omega), hodd, if_neg hother, if_neg (by decide)]
    push_cast [Nat.cast_sub htwo]
    constructor <;> rintro ⟨hlow, hhigh⟩ <;> constructor <;> linarith

theorem rounded_iff_of_place_lt (hv : Regular v.mantissa v.exponent) (hq : 0 < q)
    (hplace : place q < v.exponent) :
    rounded q = scaled v.mantissa v.exponent ↔ (Interval.around v).Contains q := by
  obtain ⟨negative, m, e⟩ := v
  dsimp only at *
  have hlowest := place_low q
  have hfull : 2 ^ 52 ≤ m := hv.full.resolve_right (by omega)
  have htop := lt_top hq
  have hrounded := rounded_le_top hq
  by_cases hnext : m = 2 ^ 52 ∧ place q = e - 1
  · obtain ⟨rfl, hplace⟩ := hnext
    have hhalf : q / 2 ^ (e - 1) = q / 2 ^ (e - 2) / 2 := by
      rw [show e - 1 = e - 2 + (1 : ℕ) by omega, div_two_zpow_add, pow_one]
    rw [hplace, show e - 1 + 53 = e - 2 + (54 : ℕ) by omega, lt_two_zpow_iff] at htop
    unfold Interval.Contains Interval.around
    dsimp only
    rw [← scaled_double, rounded_eq_iff_nearest hplace, nearest_even_iff (by decide), hhalf,
      if_pos (by decide), if_pos ⟨rfl, by omega⟩]
    push_cast
    constructor <;> rintro ⟨hlow, hhigh⟩ <;> constructor <;> linarith
  · refine iff_of_false (fun heq => hnext ?_) (fun hcontains => hnext ?_)
    · rw [heq] at hrounded
      have hle : scaled m e ≤ 2 ^ (e + (52 : ℕ)) :=
        hrounded.trans (zpow_le_zpow_right₀ one_le_two (by omega))
      refine ⟨le_antisymm ((scaled_le_two_zpow 52).mp hle) hfull, ?_⟩
      by_contra hlower
      have hle' : scaled m e ≤ 2 ^ (e + (51 : ℕ)) :=
        hrounded.trans (zpow_le_zpow_right₀ one_le_two (by omega))
      have hm := (scaled_le_two_zpow 51).mp hle'
      omega
    · have hlow := (bounds_of_contains hcontains).1
      have hbelow : ∀ n : ℕ, place q + 53 ≤ e - 2 + n → 4 * m - 2 < 2 ^ n := by
        intro n hn
        have hless := (lt_two_zpow_iff n).mp (htop.trans_le (zpow_le_zpow_right₀ one_le_two hn))
        exact_mod_cast hlow.trans_lt hless
      have hnear := hbelow 54 (by omega)
      refine ⟨by omega, ?_⟩
      by_contra hlower
      have hfar := hbelow 53 (by omega)
      omega

theorem rounded_iff_of_lt_place (hv : Regular v.mantissa v.exponent) (hq : 0 < q)
    (hplace : v.exponent < place q) :
    rounded q = scaled v.mantissa v.exponent ↔ (Interval.around v).Contains q := by
  obtain ⟨negative, m, e⟩ := v
  dsimp only at *
  have hlowest := hv.low
  have hbounded := hv.bounded
  have hpower : (2 : ℚ) ^ (e + (53 : ℕ)) ≤ 2 ^ (place q + 52) := zpow_le_zpow_right₀ one_le_two (by omega)
  refine iff_of_false (fun heq => ?_) (fun hcontains => ?_)
  · have hbottom := hpower.trans (bottom_le_rounded hq (by omega))
    rw [heq, two_zpow_add, scaled, mul_le_mul_iff_left₀ (two_zpow_pos e)] at hbottom
    have hle : 2 ^ 53 ≤ m := by exact_mod_cast hbottom
    omega
  · have hbottom := hpower.trans (bottom_le hq (by omega))
    rw [show e + (53 : ℕ) = e - 2 + (55 : ℕ) by omega, two_zpow_le_iff] at hbottom
    have hhigh := hbottom.trans (bounds_of_contains hcontains).2
    have hle : 2 ^ 55 ≤ 4 * m + 2 := by exact_mod_cast hhigh
    omega

/-- The numbers that are rounded to a float are those in the interval around it. -/
theorem rounded_iff_contains (hv : Regular v.mantissa v.exponent) (hpos : 0 < v.mantissa) (hq : 0 < q) :
    rounded q = scaled v.mantissa v.exponent ↔ (Interval.around v).Contains q := by
  rcases lt_trichotomy (place q) v.exponent with hlt | heq | hgt
  · exact rounded_iff_of_place_lt hv hq hlt
  · exact rounded_iff_of_place_eq hpos hq heq
  · exact rounded_iff_of_lt_place hv hq hgt

theorem contains_self (hv : Regular v.mantissa v.exponent) (hpos : 0 < v.mantissa) :
    (Interval.around v).Contains (scaled v.mantissa v.exponent) :=
  (rounded_iff_contains hv hpos (scaled_pos _ hpos)).mp (rounded_scaled hv.bounded hv.low)

end Tableaux.Decimal
