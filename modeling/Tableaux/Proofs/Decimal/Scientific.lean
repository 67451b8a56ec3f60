import Tableaux.Decimal.Reader
import Tableaux.Proofs.Decimal.Shortest

/-!
# The float that digits are read as

Digits with a power of ten are read as the exact number, rounded and held within the floats. This is
so for the table of powers, for exponents that are too large or too small to be tried, and for the
product or the quotient otherwise.
-/
namespace Tableaux.Decimal

open Float.Model
open Float.Model.UnpackedFloat (Sign)

variable {m k : ℕ} {e : ℤ} {q : ℚ}

theorem held_limit : held limit = limit := by
  have hrounded : rounded limit = limit := by
    have hkept := rounded_eq (k := 1) (e := 1024) (by decide) (by decide)
    rwa [Int.cast_one, one_mul] at hkept
  exact held_of_le hrounded.ge

theorem held_large (h : limit ≤ q) : held q = limit := by
  refine le_antisymm ?_ (held_limit ▸ held_mono h)
  exact max_le (by have := limit_pos; linarith) (min_le_left _ _)

theorem held_tiny (hq : 0 ≤ q) (h : q ≤ 2 ^ (-1075 : ℤ)) : held q = 0 := by
  have hhalf : rounded (2 ^ (-1075 : ℤ)) = 0 := by
    have hplace : place (2 ^ (-1075 : ℤ)) = -1074 := by
      rw [place, abs_of_pos (two_zpow_pos _)]
      have hlog : Int.log 2 ((2 : ℚ) ^ (-1075 : ℤ)) = -1075 := Int.log_zpow one_lt_two _
      rw [hlog]
      rfl
    have hquotient : (2 : ℚ) ^ (-1075 : ℤ) / 2 ^ (-1074 : ℤ) = 1 / 2 := by
      rw [← zpow_sub₀ two_ne_zero]
      norm_num
    have hnearest : nearest (1 / 2) = 0 :=
      nearest_even (by decide) (by norm_num) (by norm_num)
    rw [rounded, hplace, hquotient, hnearest, Int.cast_zero, zero_mul]
  have hnonneg := rounded_nonneg hq
  have hzero : rounded q = 0 := le_antisymm (hhalf ▸ rounded_mono h) hnonneg
  rw [held_of_lt (hzero ▸ limit_pos) hnonneg, hzero]

def isPowerOfTen (x : Float) (k : ℕ) : Bool :=
  match Value.ofFloat x with
  | .finite v => x.isFinite && !v.negative && v.numerator == 10 ^ k * v.denominator
  | _ => false

theorem isPowerOfTen_table :
    ∀ k (h : k < Float.exactlyRepresentablePowersOfTen.size),
      isPowerOfTen Float.exactlyRepresentablePowersOfTen[k] k = true := by
  decide +kernel

theorem exact_powerOfTen {x : Float} (h : isPowerOfTen x k = true) :
    x.isFinite = true ∧ exact x = 10 ^ k := by
  unfold isPowerOfTen at h
  split at h
  · rename_i v hv
    rw [Bool.and_eq_true, Bool.and_eq_true, Bool.not_eq_true', beq_iff_eq] at h
    obtain ⟨⟨hfinite, hsign⟩, hnumerator⟩ := h
    obtain ⟨w, hw, hexact, -⟩ := Value.ofFloat_finite hfinite
    obtain rfl := Value.finite.inj (hw.symm.trans hv)
    have hden : (w.denominator : ℚ) ≠ 0 := by exact_mod_cast w.denominator_pos.ne'
    refine ⟨hfinite, ?_⟩
    rw [hexact, Binary.worth, hsign, if_neg (by decide), ← quotient_eq, hnumerator, Nat.cast_mul,
      mul_div_cancel_right₀ _ hden, Nat.cast_pow, Nat.cast_ofNat]
  · cases h

theorem ten_zpow_nonneg {e : ℤ} (h : 0 ≤ e) : (10 : ℚ) ^ e = (10 ^ e.toNat : ℕ) := by
  rw [Nat.cast_pow, Nat.cast_ofNat, ← zpow_natCast, Int.toNat_of_nonneg h]

theorem exact_fast (hm : m < 2 ^ 53) (hk : k ≤ 22) (negative : Bool) :
    exact (Float.ofScientific m negative k) =
      held (m * 10 ^ (if negative then -(k : ℤ) else k)) := by
  have hn : m.toUInt64.toNat = m := by
    rw [Nat.toUInt64_eq, UInt64.toNat_ofNat', Nat.mod_eq_of_lt (by omega)]
  have hmantissa : exact m.toUInt64.toFloat = m := by
    rw [exact_toFloat (by rwa [hn]), hn]
  have hfinite : m.toUInt64.toFloat.isFinite = true :=
    isFinite_of_exact (isNaN_pack (isNaN_ofNat _)) hmantissa hm
  have hsize : k < Float.exactlyRepresentablePowersOfTen.size := Nat.lt_succ_of_le hk
  obtain ⟨hpower, hexact⟩ := exact_powerOfTen (isPowerOfTen_table k hsize)
  have hne : exact Float.exactlyRepresentablePowersOfTen[k] ≠ 0 := by
    rw [hexact]
    exact pow_ne_zero k (by norm_num)
  rw [Float.ofScientific, dif_pos ⟨hm, hk⟩]
  dsimp only
  cases negative with
  | true =>
    rw [if_pos rfl, exact_div hfinite hpower hne, hmantissa, hexact, if_pos rfl, zpow_neg, zpow_natCast,
      div_eq_mul_inv]
  | false =>
    rw [if_neg Bool.false_ne_true, exact_mul hfinite hpower, hmantissa, hexact,
      if_neg Bool.false_ne_true, zpow_natCast]

theorem two_zpow_le_ten {e : ℤ} (h : 0 ≤ e) : (2 : ℚ) ^ e ≤ 10 ^ e :=
  zpow_le_zpow_left₀ h zero_le_two (by norm_num)

theorem ten_zpow_le_two {e : ℤ} (h : e ≤ 0) : (10 : ℚ) ^ e ≤ 2 ^ e := by
  have hle : (2 : ℚ) ^ (-e) ≤ 10 ^ (-e) := two_zpow_le_ten (by omega)
  rw [zpow_neg, zpow_neg] at hle
  exact (inv_le_inv₀ (two_zpow_pos e) (ten_zpow_pos e)).mp hle

theorem limit_le_scientific (hm : 0 < m) (he : 2048 < e) : limit ≤ m * 10 ^ e := by
  have hone : (1 : ℚ) ≤ m := by exact_mod_cast hm
  calc limit ≤ 2 ^ e := zpow_le_zpow_right₀ one_le_two (by omega)
    _ ≤ 10 ^ e := two_zpow_le_ten (by omega)
    _ ≤ m * 10 ^ e := le_mul_of_one_le_left (ten_zpow_pos e).le hone

theorem scientific_le_tiny (he : e < -(2048 + (m.log2 : ℤ))) : (m : ℚ) * 10 ^ e ≤ 2 ^ (-1075 : ℤ) := by
  have hm : (m : ℚ) ≤ 2 ^ (m.log2 + 1) := by exact_mod_cast Nat.lt_log2_self.le
  calc (m : ℚ) * 10 ^ e ≤ 2 ^ (m.log2 + 1) * 2 ^ e :=
        mul_le_mul hm (ten_zpow_le_two (by omega)) (ten_zpow_pos e).le (pow_nonneg zero_le_two _)
    _ = 2 ^ (e + (m.log2 + 1 : ℕ)) := (two_zpow_add e _).symm
    _ ≤ 2 ^ (-1075 : ℤ) := zpow_le_zpow_right₀ one_le_two (by omega)

theorem worth_shifted {n : ℕ} (shift : ℕ) (hshift : 52 ≤ shift) (hm : 0 < m <<< shift) (hn : 0 < n) :
    worth (pack (UnpackedFloat.mul .binary64 (.finite .positive (m <<< shift) (-shift) hm)
      (.finite .positive n 0 hn))).unpack = held (m * n) := by
  have hlarge : 2 ^ 52 ≤ (m <<< shift) * n := by
    rw [Nat.shiftLeft_eq] at hm ⊢
    calc 2 ^ 52 ≤ 2 ^ shift := Nat.pow_le_pow_right two_pos hshift
      _ ≤ m * 2 ^ shift := Nat.le_mul_of_pos_left _ (Nat.pos_of_mul_pos_right hm)
      _ ≤ m * 2 ^ shift * n := Nat.le_mul_of_pos_right _ hn
  have hproduct : scaled ((m <<< shift) * n) (-shift + 0) = m * n := by
    rw [Nat.shiftLeft_eq, mul_right_comm, ← scaled_shift, add_zero, neg_add_cancel,
      scaled_zero_exponent, Nat.cast_mul]
  have hpos := Nat.mul_pos hm hn
  have hrounds := worth_pack (rounds_exact (s := .positive) (e := -shift + 0) hpos (Or.inl hlarge))
    (scaled_pos _ hpos)
  rw [signum, one_mul, hproduct] at hrounds
  exact hrounds

theorem exact_slow (m : ℕ) (e : ℤ) :
    worth (pack (UnpackedFloat.ofScientific .binary64 m e)).unpack = held (m * 10 ^ e) := by
  unfold UnpackedFloat.ofScientific
  have hrange : ((2 : ℤ) ^ Format.binary64.exponentBits) = 2048 := by decide
  rw [hrange]
  by_cases hzero : m = 0
  · rw [dif_pos hzero, unpack_pack_zero, hzero, Nat.cast_zero, zero_mul, held_zero, worth_zero]
  rw [dif_neg hzero]
  have hpos : 0 < m := Nat.pos_of_ne_zero hzero
  have hten : ∀ k, 0 < 10 ^ k := fun k => Nat.pow_pos (by decide)
  by_cases hlarge : e > 2048
  · rw [if_pos hlarge, unpack_pack_infinity, held_large (limit_le_scientific hpos hlarge)]
    exact one_mul limit
  rw [if_neg hlarge]
  by_cases hsmall : e < -(2048 + (m.log2 : ℤ))
  · have hnonneg : (0 : ℚ) ≤ m * 10 ^ e := mul_nonneg (Nat.cast_nonneg m) (ten_zpow_pos e).le
    rw [if_pos hsmall, unpack_pack_zero, worth_zero, held_tiny hnonneg (scientific_le_tiny hsmall)]
  rw [if_neg hsmall]
  by_cases hsign : 0 ≤ e
  · rw [if_pos hsign, worth_shifted _ (by decide), ten_zpow_nonneg hsign]
  · have hquotient : scaled m 0 / scaled (10 ^ (-e).toNat) 0 = m * 10 ^ e := by
      rw [scaled_zero_exponent, scaled_zero_exponent, ← ten_zpow_nonneg (by omega), zpow_neg, div_inv_eq_mul]
    rw [if_neg hsign, worth_pack (rounds_div hpos (hten _))
      (div_pos (scaled_pos _ hpos) (scaled_pos _ (hten _))), hquotient]
    exact congrArg held (one_mul _)

/-- Digits with an exponent are the exact number, rounded and held within the floats. -/
theorem exact_ofScientific (m : ℕ) (negative : Bool) (k : ℕ) :
    exact (Float.ofScientific m negative k) =
      held (m * 10 ^ (if negative then -(k : ℤ) else k)) := by
  by_cases hfast : m < 2 ^ 53 ∧ k ≤ 22
  · exact exact_fast hfast.1 hfast.2 negative
  · rw [Float.ofScientific, dif_neg hfast]
    refine (exact_slow m _).trans ?_
    cases negative with
    | true => rw [if_pos rfl, if_pos rfl, Int.negOfNat_eq, Int.ofNat_eq_natCast]
    | false => rw [if_neg Bool.false_ne_true, if_neg Bool.false_ne_true, Int.ofNat_eq_natCast]

theorem exact_ofDigits (digits : List Char) (e : ℤ) :
    exact (ofDigits digits e) = held ((Nat.ofDigitChars 10 digits 0 : ℕ) * 10 ^ e) := by
  rw [ofDigits, exact_ofScientific]
  congr 2
  by_cases h : e < 0
  · rw [decide_eq_true h, if_pos rfl]
    congr 1
    omega
  · rw [decide_eq_false h, if_neg Bool.false_ne_true]
    congr 1
    omega

end Tableaux.Decimal
