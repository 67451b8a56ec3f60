import Mathlib.Data.Rat.Floor
import Mathlib.Tactic.FieldSimp
import Mathlib.Tactic.Linarith
import Mathlib.Tactic.Push
import Tableaux.Decimal.Binary

/-!
# The nearest integer

Rounding to the nearest integer, and to the even one of two equally near ones, keeps integers, order
and the sign.
-/
namespace Tableaux.Decimal

variable {p q : ℚ} {k : ℤ}

/-- The integer nearest to a number, of two equally near ones the even one. -/
def nearest (q : ℚ) : ℤ :=
  if Int.fract q < 1 / 2 then ⌊q⌋
  else if Int.fract q = 1 / 2 then ⌊q⌋ + ⌊q⌋ % 2
  else ⌊q⌋ + 1

theorem nearest_below (h : Int.fract q < 1 / 2) : nearest q = ⌊q⌋ := if_pos h

theorem nearest_middle (h : Int.fract q = 1 / 2) : nearest q = ⌊q⌋ + ⌊q⌋ % 2 := by
  rw [nearest, if_neg h.not_lt, if_pos h]

theorem nearest_above (h : 1 / 2 < Int.fract q) : nearest q = ⌊q⌋ + 1 := by
  rw [nearest, if_neg h.not_gt, if_neg h.ne']

theorem nearest_intCast (k : ℤ) : nearest k = k := by
  simp [nearest]

theorem nearest_even (hk : k % 2 = 0) (hlow : k - 1 / 2 ≤ q) (hhigh : q ≤ k + 1 / 2) :
    nearest q = k := by
  have hfract := Int.self_sub_floor q
  have hlt := Int.fract_lt_one q
  have hnonneg := Int.fract_nonneg q
  by_cases hside : q < k
  · have hfloor : ⌊q⌋ = k - 1 := by
      rw [Int.floor_eq_iff]
      push_cast
      constructor <;> linarith
    rw [hfloor] at hfract
    push_cast at hfract
    have hodd : (k - 1) % 2 = 1 := by omega
    rw [nearest, hfloor, hodd, if_neg (by linarith)]
    split <;> ring
  · have hfloor : ⌊q⌋ = k := by
      rw [Int.floor_eq_iff]
      constructor <;> linarith
    rw [hfloor] at hfract
    rw [nearest, hfloor, hk]
    split
    · rfl
    · rw [if_pos (by linarith), add_zero]

theorem floor_le_nearest (q : ℚ) : ⌊q⌋ ≤ nearest q := by
  unfold nearest
  split
  · exact le_rfl
  · split <;> omega

theorem nearest_le_floor (q : ℚ) : nearest q ≤ ⌊q⌋ + 1 := by
  unfold nearest
  split
  · omega
  · split <;> omega

theorem nearest_mono (h : p ≤ q) : nearest p ≤ nearest q := by
  rcases (Int.floor_le_floor h).lt_or_eq with hlt | heq
  · exact (nearest_le_floor p).trans (le_trans (by omega) (floor_le_nearest q))
  · have hfract : Int.fract p ≤ Int.fract q := by
      have hp := Int.self_sub_floor p
      have hq := Int.self_sub_floor q
      rw [heq] at hp
      linarith
    have heven := Int.emod_two_eq_zero_or_one ⌊q⌋
    rcases lt_trichotomy (Int.fract p) (1 / 2) with hp | hp | hp
    · rw [nearest_below hp, heq]
      exact floor_le_nearest q
    · rcases (hp ▸ hfract).lt_or_eq with hq | hq
      · rw [nearest_middle hp, nearest_above hq, heq]
        omega
      · rw [nearest_middle hp, nearest_middle hq.symm, heq]
    · rw [nearest_above hp, nearest_above (hp.trans_le hfract), heq]

theorem nearest_neg (q : ℚ) : nearest (-q) = -nearest q := by
  by_cases hzero : Int.fract q = 0
  · have hq : q = (⌊q⌋ : ℤ) := by
      have hfract := Int.self_sub_floor q
      linarith
    rw [hq, ← Int.cast_neg, nearest_intCast, nearest_intCast]
  · have hfloor : ⌊-q⌋ = -⌊q⌋ - 1 := by
      have hlt := Int.fract_lt_one q
      have hpos := lt_of_le_of_ne (Int.fract_nonneg q) (Ne.symm hzero)
      have hfract := Int.self_sub_floor q
      rw [Int.floor_eq_iff]
      push_cast
      constructor <;> linarith
    have hfract : Int.fract (-q) = 1 - Int.fract q := Int.fract_neg hzero
    -- What is below the middle on one side of zero is above it on the other.
    rcases lt_trichotomy (Int.fract q) (1 / 2) with hq | hq | hq
    · rw [nearest_below hq, nearest_above (by linarith), hfloor]
      omega
    · rw [nearest_middle hq, nearest_middle (by linarith), hfloor]
      omega
    · rw [nearest_above hq, nearest_below (by linarith), hfloor]
      omega

theorem nearest_le (h : q ≤ k) : nearest q ≤ k := by
  have hmono := nearest_mono h
  rwa [nearest_intCast] at hmono

theorem le_nearest (h : k ≤ q) : k ≤ nearest q := by
  have hmono := nearest_mono h
  rwa [nearest_intCast] at hmono

theorem nearest_error (q : ℚ) : |(nearest q : ℚ) - q| ≤ 1 / 2 := by
  have hfract := Int.self_sub_floor q
  have hnonneg := Int.fract_nonneg q
  have hless := Int.fract_lt_one q
  rw [abs_le]
  rcases lt_trichotomy (Int.fract q) (1 / 2) with hq | hq | hq
  · rw [nearest_below hq]
    constructor <;> linarith
  · rw [nearest_middle hq]
    rcases Int.emod_two_eq_zero_or_one ⌊q⌋ with heven | hodd
    · rw [heven]
      push_cast
      constructor <;> linarith
    · rw [hodd]
      push_cast
      constructor <;> linarith
  · rw [nearest_above hq]
    push_cast
    constructor <;> linarith

theorem nearest_even_iff (hk : k % 2 = 0) :
    nearest q = k ↔ (k : ℚ) - 1 / 2 ≤ q ∧ q ≤ k + 1 / 2 := by
  refine ⟨fun h => ?_, fun ⟨hlow, hhigh⟩ => nearest_even hk hlow hhigh⟩
  obtain ⟨hlow, hhigh⟩ := abs_le.mp (nearest_error q)
  rw [h] at hlow hhigh
  constructor <;> linarith

theorem nearest_odd_iff (hk : k % 2 = 1) : nearest q = k ↔ (k : ℚ) - 1 / 2 < q ∧ q < k + 1 / 2 := by
  have hlow := Int.floor_le q
  have hhigh := Int.lt_floor_add_one q
  have hfract := Int.self_sub_floor q
  constructor
  · intro h
    rcases lt_trichotomy (Int.fract q) (1 / 2) with hq | hq | hq
    · rw [nearest_below hq] at h
      rw [h] at hlow hfract
      constructor <;> linarith
    · rw [nearest_middle hq] at h
      omega
    · rw [nearest_above hq] at h
      have hcast : (⌊q⌋ : ℚ) + 1 = k := by exact_mod_cast h
      constructor <;> linarith
  · rintro ⟨hbelow, habove⟩
    have hle : k - 1 ≤ ⌊q⌋ := by
      rw [Int.le_floor]
      push_cast
      linarith
    have hlt : ⌊q⌋ < k + 1 := by
      rw [Int.floor_lt]
      push_cast
      linarith
    rcases (show ⌊q⌋ = k - 1 ∨ ⌊q⌋ = k by omega) with hfloor | hfloor
    · rw [hfloor] at hfract
      push_cast at hfract
      rw [nearest_above (by linarith), hfloor]
      omega
    · rw [hfloor] at hfract
      rw [nearest_below (by linarith), hfloor]

theorem nearest_of_near (h : |q - k| < 1 / 2) : nearest q = k := by
  obtain ⟨hlow, hhigh⟩ := abs_lt.mp h
  rcases Int.emod_two_eq_zero_or_one k with heven | hodd
  · exact nearest_even heven (by linarith) (by linarith)
  · exact (nearest_odd_iff hodd).mpr ⟨by linarith, by linarith⟩

theorem nearestInteger_eq (numerator : ℕ) {denominator : ℕ} (h : 0 < denominator) :
    (nearestInteger numerator denominator : ℤ) = nearest (numerator / denominator) := by
  have hfloor : ⌊(numerator / denominator : ℚ)⌋ = (numerator / denominator : ℕ) :=
    Rat.floor_natCast_div_natCast numerator denominator
  have hpos : (0 : ℚ) < denominator := by exact_mod_cast h
  have hsplit : (numerator : ℚ) = denominator * (numerator / denominator : ℕ) +
      (numerator % denominator : ℕ) := by
    exact_mod_cast (Nat.div_add_mod numerator denominator).symm
  have hfract : Int.fract (numerator / denominator : ℚ) =
      (numerator % denominator : ℕ) / denominator := by
    rw [← Int.self_sub_floor, hfloor, Int.cast_natCast]
    field_simp
    linarith
  have hlt : Int.fract (numerator / denominator : ℚ) < 1 / 2 ↔
      2 * (numerator % denominator) < denominator := by
    rw [hfract, div_lt_div_iff₀ hpos two_pos]
    norm_cast
    omega
  have heq : Int.fract (numerator / denominator : ℚ) = 1 / 2 ↔
      2 * (numerator % denominator) = denominator := by
    rw [hfract, div_eq_div_iff hpos.ne' two_ne_zero]
    norm_cast
    omega
  unfold nearestInteger nearest
  simp only [hlt, heq, hfloor]
  split_ifs <;> push_cast <;> rfl

end Tableaux.Decimal
