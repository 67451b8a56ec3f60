import Tableaux.Proofs.Decimal.Exact

/-!
# Operations on floats

A product or a quotient of finite floats is the exact one, rounded and held within the floats. The
sign can be changed, and natural numbers that a mantissa can hold are floats.
-/
namespace Tableaux.Decimal

open Float.Model
open Float.Model.UnpackedFloat (Sign infinity notANumber zero)

variable {m n : ℕ} {e k : ℤ} {p q : ℚ} {x y : Float} {u v : UnpackedFloat}

theorem signum_mul (s t : Sign) : signum (s * t) = signum s * signum t := by
  cases s with
  | positive => cases t <;> exact (one_mul _).symm
  | negative =>
    cases t with
    | positive => exact (mul_one (-1 : ℚ)).symm
    | negative => exact (neg_mul_neg (1 : ℚ) 1 |>.trans (one_mul 1)).symm

theorem signum_div (s t : Sign) : signum (s / t) = signum s / signum t := by
  have hinv : (signum t)⁻¹ = signum t := by
    cases t with
    | positive => exact inv_one
    | negative => exact inv_neg_one
  rw [div_eq_mul_inv, hinv, ← signum_mul]
  cases s <;> cases t <;> rfl

theorem exact_mul (hx : x.isFinite = true) (hy : y.isFinite = true) :
    exact (x * y) = held (exact x * exact y) := by
  have hu := unpacks_finite hx
  have hv := unpacks_finite hy
  have hproduct : exact (x * y) =
      worth (pack (UnpackedFloat.mul .binary64 x.toModel.unpack y.toModel.unpack)).unpack := rfl
  rw [hproduct, exact, exact]
  generalize x.toModel.unpack = u at hu ⊢
  generalize y.toModel.unpack = v at hv ⊢
  cases hu with
  | zero s =>
    rw [worth, zero_mul, held_zero]
    cases hv <;> exact congrArg worth (unpack_pack_zero _)
  | finite s hm hr he =>
    cases hv with
    | zero t =>
      rw [show worth (.zero t) = 0 from rfl, mul_zero, held_zero]
      exact congrArg worth (unpack_pack_zero _)
    | finite t hn ht hf =>
      rw [worth_pack (rounds_mul hm hn hr ht) (mul_pos (scaled_pos _ hm) (scaled_pos _ hn)), signum_mul,
        worth, worth]
      congr 1
      ring

theorem exact_div (hx : x.isFinite = true) (hy : y.isFinite = true) (hne : exact y ≠ 0) :
    exact (x / y) = held (exact x / exact y) := by
  have hu := unpacks_finite hx
  have hv := unpacks_finite hy
  have hquotient : exact (x / y) =
      worth (pack (UnpackedFloat.div .binary64 x.toModel.unpack y.toModel.unpack)).unpack := rfl
  rw [hquotient]
  rw [exact] at hne ⊢
  rw [exact]
  generalize x.toModel.unpack = u at hu ⊢
  generalize y.toModel.unpack = v at hv hne ⊢
  cases hv with
  | zero t => exact absurd rfl hne
  | finite t hn ht hf =>
    cases hu with
    | zero s =>
      rw [show worth (.zero s) = 0 from rfl, zero_div, held_zero]
      exact congrArg worth (unpack_pack_zero _)
    | finite s hm hr he =>
      rw [worth_pack (rounds_div hm hn) (div_pos (scaled_pos _ hm) (scaled_pos _ hn)), signum_div,
        worth, worth]
      congr 1
      rw [div_mul_div_comm]

theorem isNaN_mul_of_finite (hx : x.isFinite = true) (hy : y.isFinite = true) :
    (x * y).isNaN = false := by
  have hu := unpacks_finite hx
  have hv := unpacks_finite hy
  have hproduct : (x * y).isNaN =
      (pack (UnpackedFloat.mul .binary64 x.toModel.unpack y.toModel.unpack)).unpack.isNaN := rfl
  rw [hproduct]
  apply isNaN_pack
  generalize x.toModel.unpack = u at hu ⊢
  generalize y.toModel.unpack = v at hv ⊢
  cases hu with
  | zero s => cases hv <;> rfl
  | finite s hm hr he =>
    cases hv with
    | zero t => rfl
    | finite t hn ht hf => exact isNaN_mul rfl rfl

theorem isNaN_div_of_finite (hx : x.isFinite = true) (hy : y.isFinite = true) (hne : exact y ≠ 0) :
    (x / y).isNaN = false := by
  have hv := unpacks_finite hy
  refine isNaN_pack (isNaN_div (isNaN_of_finite hx) ?_)
  rw [exact] at hne
  generalize y.toModel.unpack = v at hv hne ⊢
  cases hv with
  | zero t => exact absurd rfl hne
  | finite t hn ht hf => rfl

theorem isFinite_iff (h : x.isNaN = false) : x.isFinite = true ↔ |exact x| < limit := by
  have hu := unpacks h
  have hlimit := limit_pos
  have hfinite : x.isFinite = x.toModel.unpack.isFinite := rfl
  rw [hfinite, exact]
  generalize x.toModel.unpack = u at hu ⊢
  cases hu with
  | infinity s =>
    have habs : |worth (.infinity s)| = limit := by
      rw [worth_infinity]
      cases s
      · exact (abs_neg limit).trans (abs_of_pos hlimit)
      · exact abs_of_pos hlimit
    rw [habs]
    exact ⟨fun h => (Bool.false_ne_true h).elim, fun h => absurd h (lt_irrefl _)⟩
  | zero s =>
    rw [worth_zero, abs_zero]
    exact ⟨fun _ => hlimit, fun _ => rfl⟩
  | @finite s m e hm hr he =>
    have habs : |worth (.finite s m e hm)| = scaled m e := by
      have hpos := scaled_pos e hm
      rw [worth_finite]
      cases s
      · exact (abs_neg _).trans (abs_of_pos hpos)
      · exact abs_of_pos hpos
    rw [habs]
    exact ⟨fun _ => scaled_lt_limit hr he, fun _ => rfl⟩

theorem exact_neg (h : x.isNaN = false) : exact (-x) = -exact x := by
  have hu := unpacks h
  have hneg : exact (-x) = worth (pack x.toModel.unpack.neg).unpack := rfl
  rw [hneg, exact]
  generalize x.toModel.unpack = u at hu ⊢
  cases hu with
  | infinity s =>
    rw [UnpackedFloat.neg, unpack_pack_infinity, worth_infinity, worth_infinity]
    cases s
    · exact (neg_neg limit).symm
    · rfl
  | zero s =>
    rw [UnpackedFloat.neg, unpack_pack_zero, worth_zero, worth_zero, neg_zero]
  | finite s hm hr he =>
    rw [UnpackedFloat.neg, unpack_pack_finite _ hm hr he, worth_finite, worth_finite]
    cases s
    · exact (neg_neg _).symm
    · rfl

theorem exact_abs (h : x.isNaN = false) : exact x.abs = |exact x| := by
  have hu := unpacks h
  have hlimit := limit_pos
  have habs : exact x.abs = worth (pack x.toModel.unpack.abs).unpack := rfl
  rw [habs, exact]
  generalize x.toModel.unpack = u at hu ⊢
  cases hu with
  | infinity s =>
    rw [UnpackedFloat.abs, unpack_pack_infinity, worth_infinity, worth_infinity]
    cases s
    · exact ((abs_neg limit).trans (abs_of_pos hlimit)).symm
    · exact (abs_of_pos hlimit).symm
  | zero s =>
    rw [UnpackedFloat.abs, unpack_pack_zero, worth_zero, worth_zero, abs_zero]
  | @finite s m e hm hr he =>
    have hpos := scaled_pos e hm
    rw [UnpackedFloat.abs, unpack_pack_finite _ hm hr he, worth_finite, worth_finite]
    cases s
    · exact ((abs_neg _).trans (abs_of_pos hpos)).symm
    · exact (abs_of_pos hpos).symm

theorem isNaN_abs (h : x.isNaN = false) : x.abs.isNaN = false := by
  have hu := unpacks h
  refine isNaN_pack ?_
  generalize x.toModel.unpack = u at hu ⊢
  cases hu <;> rfl

theorem isFinite_abs (h : x.isFinite = true) : x.abs.isFinite = true := by
  have hnumber := isNaN_of_finite h
  rw [isFinite_iff (isNaN_abs hnumber), exact_abs hnumber, abs_abs]
  exact (isFinite_iff hnumber).mp h

theorem isFinite_neg (h : x.isFinite = true) : (-x).isFinite = true := by
  have hnumber := isNaN_of_finite h
  rw [isFinite_iff (isNaN_neg hnumber), exact_neg hnumber, abs_neg]
  exact (isFinite_iff hnumber).mp h

theorem exact_add_zero (h : x.isFinite = true) : exact (x + 0) = exact x := by
  rcases add_zero_cases h with hsum | ⟨rfl, hsum⟩
  · rw [hsum]
  · rw [hsum]
    rfl

theorem rounded_scaled (hm : m < 2 ^ 53) (he : -1074 ≤ e) : rounded (scaled m e) = scaled m e := by
  have hcast : |(m : ℤ)| < 2 ^ 53 := by
    rw [abs_of_nonneg (Int.natCast_nonneg m)]
    exact_mod_cast hm
  have hkept := rounded_eq hcast he
  rwa [Int.cast_natCast] at hkept

theorem held_scaled (hm : m < 2 ^ 53) (hlow : -1074 ≤ e) (hhigh : e ≤ 971) :
    held (scaled m e) = scaled m e := by
  have hrounded := rounded_scaled hm hlow
  have hlt : scaled m e < limit := by
    have hbound : (m : ℚ) < 2 ^ 53 := by exact_mod_cast hm
    calc scaled m e < 2 ^ 53 * 2 ^ e := mul_lt_mul_of_pos_right hbound (two_zpow_pos e)
      _ = 2 ^ (e + 53) := (two_zpow_add e 53).symm
      _ ≤ limit := zpow_le_zpow_right₀ one_le_two (by omega)
  have hnonneg : 0 ≤ scaled m e := mul_nonneg (Nat.cast_nonneg m) (two_zpow_pos e).le
  rw [← hrounded] at hlt hnonneg
  rw [held_of_lt hlt hnonneg, hrounded]

theorem held_nonneg (h : 0 ≤ q) : 0 ≤ held q := held_zero ▸ held_mono h

theorem abs_held (q : ℚ) : |held q| = held |q| := by
  rcases le_total 0 q with hq | hq
  · rw [abs_of_nonneg hq, abs_of_nonneg (held_nonneg hq)]
  · have hneg := held_nonneg (neg_nonneg.mpr hq)
    rw [abs_of_nonpos hq, held_neg] at *
    exact abs_of_nonpos (by linarith)

theorem held_two_zpow (hlow : -1074 ≤ k) (hhigh : k ≤ 971) : held (2 ^ k) = 2 ^ k := by
  have hkept : held (scaled 1 k) = scaled 1 k := held_scaled (by decide) hlow hhigh
  rwa [scaled, Nat.cast_one, one_mul] at hkept

theorem scaled_zero_exponent (m : ℕ) : scaled m 0 = m := by
  rw [scaled, zpow_zero, mul_one]

theorem exact_toFloat {n : UInt64} (h : n.toNat < 2 ^ 53) : exact n.toFloat = n.toNat := by
  have hpack : exact n.toFloat =
      worth (pack (UnpackedFloat.normalize .binary64 n.toNat 0 .positive)).unpack := rfl
  have hscaled : ((n.toNat : ℤ) : ℚ) * 2 ^ (0 : ℤ) = scaled n.toNat 0 := by
    rw [Int.cast_natCast, scaled]
  rw [hpack, worth_normalize, hscaled, held_scaled h (by decide) (by decide), scaled_zero_exponent]

theorem exact_of_unpack {hm : 0 < m} (h : x.toModel.unpack = .finite .positive m e hm) :
    exact x = scaled m e := by
  rw [exact, h, worth_finite]

theorem isFinite_of_exact (hnumber : x.isNaN = false) (hexact : exact x = n) (hn : n < 2 ^ 53) :
    x.isFinite = true := by
  rw [isFinite_iff hnumber, hexact, Nat.abs_cast]
  have hcast : (n : ℚ) < 2 ^ (53 : ℤ) := by exact_mod_cast hn
  exact hcast.trans_le (zpow_le_zpow_right₀ one_le_two (by decide))

theorem exact_zero : exact 0 = 0 := rfl

theorem unpack_one : (1 : Float).toModel.unpack = .finite .positive (2 ^ 52) (-52) (by decide) := by
  rfl

theorem exact_one : exact 1 = 1 := by
  have hscaled : scaled (2 ^ 52) (-52) = 1 := by
    rw [scaled, zpow_neg, Nat.cast_pow, Nat.cast_ofNat]
    exact mul_inv_cancel₀ (pow_ne_zero 52 two_ne_zero)
  rw [exact_of_unpack unpack_one, hscaled]

theorem exact_ofNat (h : n < 2 ^ 53) : exact (Float.ofNat n) = n := by
  have hn : n.toUInt64.toNat = n := by
    rw [Nat.toUInt64_eq, UInt64.toNat_ofNat', Nat.mod_eq_of_lt (by omega)]
  have hlength : 0 < Float.exactlyRepresentablePowersOfTen.size := by decide
  have hpower : Float.exactlyRepresentablePowersOfTen[0] = 1 := by decide +revert
  have hfloat : Float.ofNat n = n.toUInt64.toFloat * 1 := by
    have hofScientific : Float.ofNat n = Float.ofScientific n false 0 := rfl
    rw [hofScientific, Float.ofScientific, dif_pos ⟨h, by decide⟩, if_neg (by decide), hpower]
  have hm : n.toUInt64.toNat < 2 ^ 53 := by rwa [hn]
  have hfinite : n.toUInt64.toFloat.isFinite = true :=
    isFinite_of_exact (isNaN_pack (isNaN_ofNat _)) (exact_toFloat hm) hm
  rw [hfloat, exact_mul hfinite (by decide), exact_toFloat hm, exact_one, mul_one, hn,
    ← scaled_zero_exponent, held_scaled h (by decide) (by decide)]

end Tableaux.Decimal
