import Tableaux.Proofs.Decimal.Rounding

/-!
# Products and quotients of mantissas

Multiplying and dividing finite floats gives the exact result rounded, and so does packing a
mantissa with any exponent.
-/
namespace Tableaux.Decimal

open Float.Model
open Float.Model.UnpackedFloat (Accuracy ExtendedMantissa Sign accuracyOfFraction divCore
  roundWithAccuracy)

variable {m m₁ m₂ : ℕ} {e e₁ e₂ : ℤ} {s s₁ s₂ : Sign}

/-- The magnitude that a mantissa and an exponent stand for. -/
def scaled (m : ℕ) (e : ℤ) : ℚ := m * 2 ^ e

theorem scaled_pos (e : ℤ) (h : 0 < m) : 0 < scaled m e :=
  mul_pos (by exact_mod_cast h) (two_zpow_pos e)

theorem scaled_div (m : ℕ) (e : ℤ) : scaled m e / 2 ^ e = m :=
  mul_div_cancel_right₀ _ (two_zpow_pos e).ne'

theorem scaled_mul : scaled m₁ e₁ * scaled m₂ e₂ = scaled (m₁ * m₂) (e₁ + e₂) := by
  rw [scaled, scaled, scaled, zpow_add₀ two_ne_zero]
  push_cast
  ring

theorem rounds_exact (h : 0 < m) (hlarge : 2 ^ 52 ≤ m ∨ e ≤ -1074) :
    Rounds s (scaled m e) (roundWithAccuracy .binary64 s m e .exact) := by
  refine rounds_roundWithAccuracy ?_ (scaled_pos e h) hlarge
  rw [scaled_div]
  exact represents_exact m

theorem rounds_mul (h₁ : 0 < m₁) (h₂ : 0 < m₂) (hr₁ : Regular m₁ e₁) (hr₂ : Regular m₂ e₂) :
    Rounds (s₁ * s₂) (scaled m₁ e₁ * scaled m₂ e₂)
      (UnpackedFloat.mul .binary64 (.finite s₁ m₁ e₁ h₁) (.finite s₂ m₂ e₂ h₂)) := by
  rw [scaled_mul]
  refine rounds_exact (Nat.mul_pos h₁ h₂) ?_
  rcases hr₁.full with hfull | hlow₁
  · exact Or.inl (hfull.trans (Nat.le_mul_of_pos_right m₁ h₂))
  · rcases hr₂.full with hfull | hlow₂
    · exact Or.inl (hfull.trans (Nat.le_mul_of_pos_left m₂ h₁))
    · exact Or.inr (by omega)

theorem represents_fraction {below num den : ℕ} (h : num < den) :
    Represents (.ofMantissaAndAccuracy below (accuracyOfFraction num den))
      (below + num / den) := by
  have hden : (0 : ℚ) < den := by exact_mod_cast (Nat.zero_le num).trans_lt h
  have hlt : (num : ℚ) / den < 1 := by
    rw [div_lt_one hden]
    exact_mod_cast h
  unfold accuracyOfFraction
  by_cases hzero : num = 0
  · rw [if_pos hzero, hzero, Nat.cast_zero, zero_div, add_zero]
    exact represents_exact below
  · have hpos : (0 : ℚ) < num / den :=
      div_pos (by exact_mod_cast Nat.pos_of_ne_zero hzero) hden
    have hhalf : (num : ℚ) / den - 1 / 2 = (2 * num - den) / (2 * den) := by
      field_simp
    rw [if_neg hzero]
    rcases lt_trichotomy (2 * num) den with hside | hside | hside
    · have hless : (num : ℚ) / den < 1 / 2 := by
        rw [div_lt_div_iff₀ hden two_pos]
        exact_mod_cast (by omega : num * 2 < 1 * den)
      rw [compare_lt_iff_lt.mpr hside]
      exact ⟨by linarith, by linarith⟩
    · have hsame : (num : ℚ) / den = 1 / 2 := by
        rw [div_eq_div_iff hden.ne' two_ne_zero]
        exact_mod_cast (by omega : num * 2 = 1 * den)
      rw [compare_eq_iff_eq.mpr hside, hsame]
      rfl
    · have hmore : 1 / 2 < (num : ℚ) / den := by
        rw [div_lt_div_iff₀ two_pos hden]
        exact_mod_cast (by omega : 1 * den < num * 2)
      rw [compare_gt_iff_gt.mpr hside]
      exact ⟨by linarith, by linarith⟩

/-- The dividend is made so long that the quotient has enough digits, or reaches the smallest place. -/
theorem divCore_eq (m₁ m₂ : ℕ) (e₁ e₂ : ℤ) : ∃ k : ℕ,
    divCore .binary64 m₁ e₁ m₂ e₂ =
      (m₁ * 2 ^ k / m₂, e₁ - e₂ - k, accuracyOfFraction (m₁ * 2 ^ k % m₂) m₂) ∧
    (53 + m₂.log2 ≤ m₁.log2 + k ∨ e₁ - e₂ - k ≤ -1074) := by
  obtain ⟨target, htarget⟩ : ∃ target, target =
      min (e₁ - e₂) (Format.binary64.targetExponent (totalExponent m₁ e₁ - totalExponent m₂ e₂)) :=
    ⟨_, rfl⟩
  have hle : target ≤ e₁ - e₂ := htarget ▸ min_le_left _ _
  obtain ⟨k, hk⟩ : ∃ k : ℕ, target = e₁ - e₂ - k := ⟨(e₁ - e₂ - target).toNat, by omega⟩
  refine ⟨k, ?_, ?_⟩
  · have hshift : (e₁ - e₂ - (e₁ - e₂ - k)).toNat = k := by omega
    unfold divCore
    simp only [← htarget, hk, hshift, Nat.shiftLeft_eq]
  · rw [target_eq, totalExponent, totalExponent] at htarget
    omega

theorem quotient_large {k : ℕ} (h₁ : 0 < m₁) (h₂ : 0 < m₂)
    (hlog : 53 + m₂.log2 ≤ m₁.log2 + k) : 2 ^ 52 ≤ m₁ * 2 ^ k / m₂ := by
  rw [Nat.le_div_iff_mul_le h₂]
  have hlow : 2 ^ m₁.log2 ≤ m₁ := Nat.log2_self_le h₁.ne'
  have hhigh : m₂ ≤ 2 ^ (m₂.log2 + 1) := Nat.lt_log2_self.le
  calc 2 ^ 52 * m₂ ≤ 2 ^ 52 * 2 ^ (m₂.log2 + 1) := Nat.mul_le_mul_left _ hhigh
    _ = 2 ^ (53 + m₂.log2) := by rw [← pow_add]; congr 1; omega
    _ ≤ 2 ^ (m₁.log2 + k) := Nat.pow_le_pow_right two_pos hlog
    _ = 2 ^ m₁.log2 * 2 ^ k := pow_add 2 _ _
    _ ≤ m₁ * 2 ^ k := Nat.mul_le_mul_right _ hlow

theorem rounds_div (h₁ : 0 < m₁) (h₂ : 0 < m₂) :
    Rounds (s₁ / s₂) (scaled m₁ e₁ / scaled m₂ e₂)
      (UnpackedFloat.div .binary64 (.finite s₁ m₁ e₁ h₁) (.finite s₂ m₂ e₂ h₂)) := by
  obtain ⟨k, hcore, hlarge⟩ := divCore_eq m₁ m₂ e₁ e₂
  have hpos : (0 : ℚ) < m₂ := by exact_mod_cast h₂
  have hquotient : scaled m₁ e₁ / scaled m₂ e₂ / 2 ^ (e₁ - e₂ - k) =
      (m₁ * 2 ^ k / m₂ : ℕ) + (m₁ * 2 ^ k % m₂ : ℕ) / m₂ := by
    have hsplit : ((m₁ * 2 ^ k : ℕ) : ℚ) = m₂ * (m₁ * 2 ^ k / m₂ : ℕ) + (m₁ * 2 ^ k % m₂ : ℕ) := by
      exact_mod_cast (Nat.div_add_mod (m₁ * 2 ^ k) m₂).symm
    have hscaled : scaled m₁ e₁ / scaled m₂ e₂ / 2 ^ (e₁ - e₂ - k) = (m₁ * 2 ^ k : ℕ) / m₂ := by
      rw [scaled, scaled, zpow_sub₀ two_ne_zero, zpow_sub₀ two_ne_zero, zpow_natCast]
      have hpos₁ := (two_zpow_pos e₁).ne'
      have hpos₂ := (two_zpow_pos e₂).ne'
      field_simp
      push_cast
      ring
    rw [hscaled, hsplit]
    field_simp
  have hdiv : UnpackedFloat.div .binary64 (.finite s₁ m₁ e₁ h₁) (.finite s₂ m₂ e₂ h₂) =
      roundWithAccuracy .binary64 (s₁ / s₂) (divCore .binary64 m₁ e₁ m₂ e₂).1
        (divCore .binary64 m₁ e₁ m₂ e₂).2.1 (divCore .binary64 m₁ e₁ m₂ e₂).2.2 := rfl
  rw [hdiv, hcore]
  refine rounds_roundWithAccuracy ?_ (div_pos (scaled_pos e₁ h₁) (scaled_pos e₂ h₂))
    (hlarge.imp_left (quotient_large h₁ h₂))
  rw [hquotient]
  exact represents_fraction (Nat.mod_lt _ h₂)

theorem rounds_round (h : 0 < m) :
    Rounds s (scaled m e) (UnpackedFloat.round .binary64 s m e) := by
  obtain ⟨k, hk⟩ : ∃ k : ℕ,
      (e - Format.binary64.targetExponent (totalExponent m e)).toNat = k := ⟨_, rfl⟩
  have hround : UnpackedFloat.round .binary64 s m e =
      roundWithAccuracy .binary64 s (m * 2 ^ k) (e - k) .exact := by
    subst hk
    rw [← Nat.shiftLeft_eq]
    rfl
  have hscaled : scaled m e = scaled (m * 2 ^ k) (e - k) := by
    rw [scaled, scaled, zpow_sub₀ two_ne_zero, zpow_natCast]
    have hpos : (2 : ℚ) ^ k ≠ 0 := pow_ne_zero k two_ne_zero
    field_simp
    push_cast
    ring
  rw [hround, hscaled]
  refine rounds_exact (Nat.mul_pos h (Nat.two_pow_pos k)) ?_
  rw [target_eq, totalExponent] at hk
  rcases (by omega : 52 ≤ m.log2 + k ∨ e - k ≤ -1074) with hlog | hlow
  · left
    calc 2 ^ 52 ≤ 2 ^ (m.log2 + k) := Nat.pow_le_pow_right two_pos hlog
      _ = 2 ^ m.log2 * 2 ^ k := pow_add 2 _ _
      _ ≤ m * 2 ^ k := Nat.mul_le_mul_right _ (Nat.log2_self_le h.ne')
  · exact Or.inr hlow

end Tableaux.Decimal
