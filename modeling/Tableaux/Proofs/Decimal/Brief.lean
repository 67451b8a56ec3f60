import Tableaux.Decimal.Brief
import Tableaux.Proofs.Decimal.Neighbor

/-!
# Values as they are shown

An integer is shown as it is. Any other value is multiplied, rounded to an integer and divided again,
and each of the three steps gives the nearest number that it can.
-/
namespace Tableaux.Decimal

open Float.Model
open Float.Model.UnpackedFloat (Sign)

variable {x : Float} {q : ℚ}

theorem isNaN_ofNat_float (n : ℕ) : (Float.ofNat n).isNaN = false := isNaN_ofScientific n false 0

theorem quotient_eq (v : Binary) :
    (v.numerator : ℚ) / v.denominator = scaled v.mantissa v.exponent := by
  have hnumerator : (v.numerator : ℚ) = v.mantissa * 2 ^ v.exponent.toNat := by
    rw [Binary.numerator, Nat.cast_mul]
    exact congrArg _ (Nat.cast_pow 2 _)
  have hdenominator : (v.denominator : ℚ) = 2 ^ (-v.exponent).toNat := Nat.cast_pow 2 _
  rw [hnumerator, hdenominator, scaled]
  rcases le_total 0 v.exponent with h | h
  · obtain ⟨n, hn⟩ := Int.eq_ofNat_of_zero_le h
    rw [hn]
    simp
  · obtain ⟨n, hn⟩ := Int.eq_ofNat_of_zero_le (neg_nonneg.mpr h)
    have hexponent : v.exponent = -n := by rw [← Int.neg_neg v.exponent, hn]
    rw [hexponent]
    simp [div_eq_mul_inv]

def Binary.worth (v : Binary) : ℚ :=
  if v.negative then -scaled v.mantissa v.exponent else scaled v.mantissa v.exponent

theorem nearest_worth (v : Binary) :
    (nearest v.worth : ℚ) = if v.negative then -(nearest (scaled v.mantissa v.exponent) : ℚ)
      else (nearest (scaled v.mantissa v.exponent) : ℚ) := by
  rw [Binary.worth]
  split
  · rw [nearest_neg, Int.cast_neg]
  · rfl

theorem Value.ofFloat_finite (h : x.isFinite = true) :
    ∃ v, Value.ofFloat x = .finite v ∧ exact x = v.worth ∧
      (v.mantissa = 0 ∧ v.exponent = 0 ∨
        0 < v.mantissa ∧ Regular v.mantissa v.exponent ∧ v.exponent ≤ 971) := by
  have hu := unpacks_finite h
  rw [Value.ofFloat, exact]
  generalize x.toModel.unpack = u at hu ⊢
  cases hu with
  | zero s =>
    refine ⟨⟨isMinus s, 0, 0⟩, rfl, ?_, Or.inl ⟨rfl, rfl⟩⟩
    cases s <;> simp [worth_zero, Binary.worth, scaled]
  | @finite s m e hm hr he =>
    refine ⟨⟨isMinus s, m, e⟩, rfl, ?_, Or.inr ⟨hm, hr, he⟩⟩
    rw [worth_finite]
    cases s <;> rfl

theorem nearest_integral {v : Binary} (h : v.isIntegral = true) :
    (nearest (scaled v.mantissa v.exponent) : ℚ) = scaled v.mantissa v.exponent := by
  have hden : (v.denominator : ℚ) ≠ 0 := by exact_mod_cast v.denominator_pos.ne'
  rw [Binary.isIntegral, beq_iff_eq] at h
  obtain ⟨k, hk⟩ := Nat.dvd_of_mod_eq_zero h
  have hscaled : scaled v.mantissa v.exponent = (k : ℤ) := by
    rw [← quotient_eq, hk, Nat.cast_mul, mul_div_cancel_left₀ _ hden, Int.cast_natCast]
  rw [hscaled, nearest_intCast]

/-- Only numbers with a place behind the point are not integers, and these are small. -/
theorem scaled_lt_of_fraction {v : Binary} (h : ¬ v.isIntegral = true)
    (hr : Regular v.mantissa v.exponent) : scaled v.mantissa v.exponent < 2 ^ 52 := by
  have hexponent : v.exponent < 0 := by
    by_contra hnonneg
    have hden : v.denominator = 1 := by
      rw [Binary.denominator, Int.toNat_of_nonpos (by omega)]
    exact h (by rw [Binary.isIntegral, hden, Nat.mod_one]; rfl)
  have hbound : (v.mantissa : ℚ) < 2 ^ 53 := by exact_mod_cast hr.bounded
  calc scaled v.mantissa v.exponent < 2 ^ 53 * 2 ^ v.exponent :=
        mul_lt_mul_of_pos_right hbound (two_zpow_pos _)
    _ = 2 ^ (v.exponent + 53) := (two_zpow_add v.exponent 53).symm
    _ ≤ 2 ^ (52 : ℤ) := zpow_le_zpow_right₀ one_le_two (by omega)

theorem exact_roundToInteger (h : x.isFinite = true) :
    exact (roundToInteger x) = nearest (exact x) := by
  obtain ⟨v, hv, hexact, hcases⟩ := Value.ofFloat_finite h
  rw [roundToInteger, hv]
  dsimp only
  by_cases hintegral : v.isIntegral = true
  · rw [if_pos hintegral, hexact, nearest_worth, nearest_integral hintegral]
    rfl
  · have hr : Regular v.mantissa v.exponent := by
      rcases hcases with ⟨hm, he⟩ | ⟨-, hr, -⟩
      · refine absurd ?_ hintegral
        rw [Binary.isIntegral, Binary.numerator, hm, Nat.zero_mul, Nat.zero_mod]
        rfl
      · exact hr
    have hnearest := nearestInteger_eq v.numerator v.denominator_pos
    rw [quotient_eq] at hnearest
    have hsmall : nearestInteger v.numerator v.denominator < 2 ^ 53 := by
      have hle : nearest (scaled v.mantissa v.exponent) ≤ (2 ^ 52 : ℤ) :=
        nearest_le (by exact_mod_cast (scaled_lt_of_fraction hintegral hr).le)
      omega
    have hcast : (nearest (scaled v.mantissa v.exponent) : ℚ) =
        nearestInteger v.numerator v.denominator := by
      rw [← hnearest, Int.cast_natCast]
    rw [if_neg hintegral, hexact, nearest_worth, hcast]
    split
    · rw [exact_neg (isNaN_ofNat_float _), exact_ofNat hsmall]
    · rw [exact_ofNat hsmall]

theorem isNaN_roundToInteger (h : x.isFinite = true) : (roundToInteger x).isNaN = false := by
  obtain ⟨v, hv, -⟩ := Value.ofFloat_finite h
  rw [roundToInteger, hv]
  dsimp only
  split
  · exact isNaN_of_finite h
  · split
    · exact isNaN_neg (isNaN_ofNat_float _)
    · exact isNaN_ofNat_float _

theorem isInteger_worth (h : x.isFinite = true) (hi : isInteger x = true) :
    (nearest (exact x) : ℚ) = exact x := by
  obtain ⟨v, hv, hexact, -⟩ := Value.ofFloat_finite h
  rw [isInteger, hv] at hi
  rw [hexact, nearest_worth, nearest_integral hi]
  rfl

theorem abs_worth (v : Binary) : |v.worth| = scaled v.mantissa v.exponent := by
  have hnonneg : 0 ≤ scaled v.mantissa v.exponent :=
    mul_nonneg (Nat.cast_nonneg _) (two_zpow_pos _).le
  rw [Binary.worth]
  split
  · rw [abs_neg, abs_of_nonneg hnonneg]
  · exact abs_of_nonneg hnonneg

theorem isInteger_iff (h : x.isFinite = true) : isInteger x = true ↔ ∃ k : ℤ, exact x = k := by
  refine ⟨fun hi => ⟨nearest (exact x), (isInteger_worth h hi).symm⟩, fun ⟨k, hk⟩ => ?_⟩
  obtain ⟨v, hv, hexact, -⟩ := Value.ofFloat_finite h
  have hden : (v.denominator : ℚ) ≠ 0 := by exact_mod_cast v.denominator_pos.ne'
  have hquotient : (v.numerator : ℚ) / v.denominator = k.natAbs := by
    rw [quotient_eq, ← abs_worth, ← hexact, hk, Nat.cast_natAbs, Int.cast_abs]
  have hnumerator : v.numerator = k.natAbs * v.denominator := by
    exact_mod_cast (div_eq_iff hden).mp hquotient
  rw [isInteger, hv]
  dsimp only
  rw [Binary.isIntegral, beq_iff_eq, hnumerator, Nat.mul_mod_left]

theorem abs_le_of_fraction (h : x.isFinite = true) (hi : ¬ isInteger x = true) :
    |exact x| ≤ 2 ^ 52 := by
  obtain ⟨v, hv, hexact, hcases⟩ := Value.ofFloat_finite h
  rw [isInteger, hv] at hi
  rw [hexact, abs_worth]
  rcases hcases with ⟨hm, -⟩ | ⟨-, hr, -⟩
  · rw [hm, scaled, Nat.cast_zero, zero_mul]
    exact pow_nonneg zero_le_two 52
  · exact (scaled_lt_of_fraction hi hr).le

theorem abs_held_le (h : |q| ≤ 2 ^ (66 : ℤ)) : |held q| ≤ 2 ^ (66 : ℤ) := by
  rw [abs_held, ← held_two_zpow (k := 66) (by decide) (by decide)]
  exact held_mono h

theorem small_lt_limit : (2 : ℚ) ^ (66 : ℤ) < limit :=
  zpow_lt_zpow_right₀ one_lt_two (by decide)

theorem briefScale_finite : briefScale.isFinite = true := by decide

theorem exact_briefScale : exact briefScale = 10000 := by
  have hunpack :
      briefScale.toModel.unpack = .finite .positive (10000 * 2 ^ 39) (-39) (by decide) := by rfl
  rw [exact_of_unpack hunpack, scaled, zpow_neg, Nat.cast_mul, Nat.cast_pow]
  exact mul_inv_cancel_right₀ (pow_ne_zero 39 two_ne_zero) _

theorem scaled_finite (h : x.isFinite = true) (hi : ¬ isInteger x = true) :
    (x * briefScale).isFinite = true ∧ |exact (x * briefScale)| ≤ 2 ^ (66 : ℤ) := by
  have hbound : |exact (x * briefScale)| ≤ 2 ^ (66 : ℤ) := by
    rw [exact_mul h briefScale_finite, exact_briefScale]
    apply abs_held_le
    rw [abs_mul]
    have hx := abs_le_of_fraction h hi
    have hten : |(10000 : ℚ)| ≤ 2 ^ 14 := by norm_num
    calc |exact x| * |10000| ≤ 2 ^ 52 * 2 ^ 14 :=
          mul_le_mul hx hten (abs_nonneg _) (pow_nonneg zero_le_two 52)
      _ = 2 ^ (66 : ℤ) := by norm_num
  exact ⟨(isFinite_iff (isNaN_mul_of_finite h briefScale_finite)).mpr (hbound.trans_lt small_lt_limit), hbound⟩

/-- What is shown for a value that is not an integer, before zero is added. -/
theorem scaled_back (h : x.isFinite = true) (hi : ¬ isInteger x = true) :
    (roundToInteger (x * briefScale) / briefScale).isFinite = true ∧
      exact (roundToInteger (x * briefScale) / briefScale) =
        held (nearest (exact (x * briefScale)) / 10000) := by
  obtain ⟨hfinite, hbound⟩ := scaled_finite h hi
  have hexact := exact_roundToInteger hfinite
  have hnearest : |(nearest (exact (x * briefScale)) : ℚ)| ≤ 2 ^ (66 : ℤ) := by
    have hpower : (2 : ℚ) ^ (66 : ℤ) = (2 ^ 66 : ℤ) := by norm_num
    rw [hpower] at hbound ⊢
    obtain ⟨hlow, hhigh⟩ := abs_le.mp hbound
    rw [abs_le, ← Int.cast_neg] at *
    exact ⟨by exact_mod_cast le_nearest hlow, by exact_mod_cast nearest_le hhigh⟩
  have hrounded : (roundToInteger (x * briefScale)).isFinite = true := by
    rw [isFinite_iff (isNaN_roundToInteger hfinite), hexact]
    exact hnearest.trans_lt small_lt_limit
  have hne : exact briefScale ≠ 0 := by
    rw [exact_briefScale]
    norm_num
  have hquotient : exact (roundToInteger (x * briefScale) / briefScale) =
      held (nearest (exact (x * briefScale)) / 10000) := by
    rw [exact_div hrounded briefScale_finite hne, hexact, exact_briefScale]
  refine ⟨?_, hquotient⟩
  rw [isFinite_iff (isNaN_div_of_finite hrounded briefScale_finite hne), hquotient]
  refine (abs_held_le ?_).trans_lt small_lt_limit
  rw [abs_div]
  exact (div_le_self (abs_nonneg _) (by norm_num)).trans hnearest

theorem unadded_finite (h : x.isFinite = true) :
    (if isInteger x then x else roundToInteger (x * briefScale) / briefScale).isFinite = true := by
  split
  · exact h
  · rename_i hi
    exact (scaled_back h hi).1

theorem briefValue_finite (h : x.isFinite = true) : (briefValue x).isFinite = true :=
  add_zero_finite (unadded_finite h)

theorem exact_briefValue (h : x.isFinite = true) :
    exact (briefValue x) = if isInteger x then exact x
      else held (nearest (exact (x * briefScale)) / 10000) := by
  rw [briefValue]
  split
  · exact exact_add_zero h
  · rename_i hi
    obtain ⟨hfinite, hexact⟩ := scaled_back h hi
    exact (exact_add_zero hfinite).trans hexact

theorem briefValue_zero (h : x.isFinite = true) (hzero : exact (briefValue x) = 0) :
    briefValue x = 0 := by
  have hvalue := unadded_finite h
  rw [briefValue] at hzero ⊢
  generalize (if isInteger x then x else roundToInteger (x * briefScale) / briefScale) = y
    at hvalue hzero ⊢
  have hsum : y + 0.0 = if y == 0 then 0 else y := add_zero_eq (isNaN_of_finite hvalue)
  have hexact : exact (y + 0.0) = exact y := exact_add_zero hvalue
  have hbeq : (y == 0) = true := (beq_iff (isNaN_of_finite hvalue) (by decide)).mpr (hexact ▸ hzero)
  rw [hsum, if_pos hbeq]

theorem isInteger_neg (h : x.isFinite = true) : isInteger (-x) = isInteger x := by
  have hu := unpacks_finite h
  have hneg : (-x).toModel.unpack = (pack x.toModel.unpack.neg).unpack := rfl
  rw [isInteger, isInteger, Value.ofFloat, Value.ofFloat, hneg]
  generalize x.toModel.unpack = u at hu ⊢
  cases hu with
  | zero s => rw [UnpackedFloat.neg, unpack_pack_zero]; rfl
  | finite s hm hr he => rw [UnpackedFloat.neg, unpack_pack_finite _ hm hr he]; rfl

theorem exact_scaled_neg (h : x.isFinite = true) :
    exact (-x * briefScale) = -exact (x * briefScale) := by
  rw [exact_mul (isFinite_neg h) briefScale_finite, exact_mul h briefScale_finite,
    exact_neg (isNaN_of_finite h), neg_mul, held_neg]

theorem exact_briefValue_neg (h : x.isFinite = true) :
    exact (briefValue (-x)) = -exact (briefValue x) := by
  rw [exact_briefValue h, exact_briefValue (isFinite_neg h), isInteger_neg h, exact_scaled_neg h,
    nearest_neg, Int.cast_neg, neg_div, held_neg]
  split
  · exact exact_neg (isNaN_of_finite h)
  · rfl

end Tableaux.Decimal
