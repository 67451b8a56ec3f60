import Tableaux.Proofs.Decimal.Rounded
import Tableaux.Proofs.Decimal.Unpacked

/-!
# Rounding a mantissa

A mantissa that is shifted to the right keeps two bits on what it loses, which say where between two
integers the exact number lies. They suffice to round it once, so the result of an operation is its
exact result rounded.
-/
namespace Tableaux.Decimal

open Float.Model
open Float.Model.UnpackedFloat (Accuracy ExtendedMantissa Sign roundWithAccuracy
  shiftToTargetExponent zero)

variable {em : ExtendedMantissa} {m : ℕ} {e : ℤ} {x q : ℚ} {s : Sign} {accuracy : Accuracy}

/-- The number that a mantissa with its two bits stands for. -/
def Represents : ExtendedMantissa → ℚ → Prop
  | ⟨m, false, false⟩, x => x = m
  | ⟨m, false, true⟩, x => m < x ∧ x < m + 1 / 2
  | ⟨m, true, false⟩, x => x = m + 1 / 2
  | ⟨m, true, true⟩, x => m + 1 / 2 < x ∧ x < m + 1

theorem Represents.bounds (h : Represents em x) : em.mantissa ≤ x ∧ x < em.mantissa + 1 := by
  obtain ⟨m, round, sticky⟩ := em
  cases round <;> cases sticky <;> simp only [Represents] at h ⊢ <;> constructor <;> linarith

theorem Represents.floor (h : Represents em x) : ⌊x⌋ = em.mantissa := by
  rw [Int.floor_eq_iff]
  exact h.bounds

theorem Represents.nearest (h : Represents em x) : nearest x = em.roundedMantissa := by
  have hfloor := h.floor
  have hfract := Int.self_sub_floor x
  obtain ⟨m, round, sticky⟩ := em
  rw [hfloor] at hfract
  cases round <;> cases sticky <;> simp only [Represents, Int.cast_natCast] at h hfract
  · rw [nearest_below (by linarith), hfloor]
    rfl
  · rw [nearest_below (by linarith), hfloor]
    rfl
  · rw [nearest_middle (by linarith), hfloor]
    rfl
  · rw [nearest_above (by linarith), hfloor]
    rfl

/-- The lowest binary digit becomes the first of the two bits, and the second one remembers both. -/
theorem Represents.shiftRightOne (h : Represents em x) : Represents em.shiftRightOne (x / 2) := by
  obtain ⟨m, round, sticky⟩ := em
  have hsplit : (m : ℚ) = 2 * (m / 2 : ℕ) + (m % 2 : ℕ) := by
    exact_mod_cast (Nat.div_add_mod m 2).symm
  rcases Nat.mod_two_eq_zero_or_one m with hbit | hbit <;> rw [hbit] at hsplit <;>
    cases round <;> cases sticky <;>
    simp only [Represents, ExtendedMantissa.shiftRightOne, hbit, bne_self_eq_false, Bool.or_false,
      Bool.or_true, Nat.cast_zero, Nat.cast_one, show (1 != 0) = true from rfl]
      at h hsplit ⊢ <;>
    first | linarith | (constructor <;> linarith)

theorem Represents.shiftRight (h : Represents em x) (n : ℕ) :
    Represents (em >>> n) (x / 2 ^ n) := by
  change Represents (n.repeat ExtendedMantissa.shiftRightOne em) _
  induction n with
  | zero => simpa [Nat.repeat] using h
  | succ n ih =>
    rw [pow_succ, ← div_div]
    exact ih.shiftRightOne

theorem represents_exact (m : ℕ) : Represents (.ofMantissaAndAccuracy m .exact) m := rfl

theorem mantissa_ofAccuracy (m : ℕ) (accuracy : Accuracy) :
    (ExtendedMantissa.ofMantissaAndAccuracy m accuracy).mantissa = m := by
  cases accuracy with
  | exact => rfl
  | inexact side => cases side <;> rfl

theorem target_eq (t : ℤ) : Format.binary64.targetExponent t = max (t - 53) (-1074) := rfl

theorem target_of_represents (h : Represents (.ofMantissaAndAccuracy m accuracy) (q / 2 ^ e))
    (hq : 0 < q) (hlarge : 2 ^ 52 ≤ m ∨ e ≤ -1074) :
    Format.binary64.targetExponent (totalExponent m e) = place q := by
  have hpos := two_zpow_pos e
  have hbounds := h.bounds
  rw [mantissa_ofAccuracy, le_div_iff₀ hpos, div_lt_iff₀ hpos] at hbounds
  rw [target_eq, totalExponent, place, abs_of_pos hq]
  by_cases hzero : m = 0
  · subst hzero
    have hlow : e ≤ -1074 := hlarge.resolve_left (by decide)
    have hlog : Int.log 2 q < e := by
      rw [← Int.lt_zpow_iff_log_lt one_lt_two hq]
      simpa using hbounds.2
    simp only [Nat.log2_zero]
    omega
  · have hlow : (2 : ℚ) ^ m.log2 ≤ m := by exact_mod_cast Nat.log2_self_le hzero
    have hhigh : (m : ℚ) + 1 ≤ 2 ^ (m.log2 + 1) := by exact_mod_cast Nat.lt_log2_self
    have hle : e + m.log2 ≤ Int.log 2 q := by
      rw [← Int.zpow_le_iff_le_log one_lt_two hq, Nat.cast_ofNat, two_zpow_add]
      exact (mul_le_mul_of_nonneg_right hlow hpos.le).trans hbounds.1
    have hlt : Int.log 2 q < e + (m.log2 + 1 : ℕ) := by
      rw [← Int.lt_zpow_iff_log_lt one_lt_two hq, Nat.cast_ofNat, two_zpow_add]
      exact hbounds.2.trans_le (mul_le_mul_of_nonneg_right hhigh hpos.le)
    push_cast at hlt
    omega

/-- An unpacked float with a sign whose magnitude is a rounded number. -/
inductive Rounds (s : Sign) (q : ℚ) : UnpackedFloat → Prop where
  | zero (h : rounded q = 0) : Rounds s q (.zero s)
  | finite {mantissa : ℕ} {exponent : ℤ} (hpos : 0 < mantissa) (hr : Regular mantissa exponent)
      (h : rounded q = mantissa * 2 ^ exponent) : Rounds s q (.finite s mantissa exponent hpos)

theorem shiftToTarget_eq {k : ℕ} (h : (place q - e).toNat = k)
    (ht : Format.binary64.targetExponent (totalExponent m e) = place q) :
    shiftToTargetExponent .binary64 m e accuracy =
      (ExtendedMantissa.ofMantissaAndAccuracy m accuracy >>> k, e + k) := by
  subst h
  rw [← ht]
  rfl

theorem shiftToTarget_keep {n : ℕ} {low : ℤ} (hlow : -1074 ≤ low) (hn : n < 2 ^ 53) :
    shiftToTargetExponent .binary64 n low .exact = (⟨n, false, false⟩, low) := by
  have hlog : n.log2 ≤ 52 := by
    by_cases hzero : n = 0
    · rw [hzero, Nat.log2_zero]
      exact Nat.zero_le _
    · exact Nat.lt_succ_iff.mp ((Nat.log2_lt hzero).mpr hn)
  have hshift : (Format.binary64.targetExponent (totalExponent n low) - low).toNat = 0 := by
    rw [target_eq, totalExponent]
    omega
  unfold shiftToTargetExponent UnpackedFloat.shiftToExponent
  simp only [hshift]
  rw [Nat.cast_zero, add_zero]
  rfl

/-- A carry into one more digit is shifted out again, and only a zero is lost. -/
theorem shiftToTarget_carry {low : ℤ} (hlow : -1074 ≤ low) :
    shiftToTargetExponent .binary64 (2 ^ 53) low .exact = (⟨2 ^ 52, false, false⟩, low + 1) := by
  have hshift : (Format.binary64.targetExponent (totalExponent (2 ^ 53) low) - low).toNat = 1 := by
    rw [target_eq, totalExponent, Nat.log2_two_pow]
    omega
  unfold shiftToTargetExponent UnpackedFloat.shiftToExponent
  simp only [hshift]
  rfl

theorem roundWithAccuracy_eq {low : ℤ} {final : ExtendedMantissa × ℤ}
    (hfirst : shiftToTargetExponent .binary64 m e accuracy = (em, low))
    (hsecond : shiftToTargetExponent .binary64 em.roundedMantissa low .exact = final) :
    roundWithAccuracy .binary64 s m e accuracy =
      if h : final.1.mantissa = 0 then .zero s
      else .finite s final.1.mantissa final.2 (Nat.pos_of_ne_zero h) := by
  subst hsecond
  unfold roundWithAccuracy
  simp only [hfirst]

theorem rounded_of_nearest {n : ℕ} (h : nearest (q / 2 ^ place q) = n) :
    rounded q = n * 2 ^ place q := by
  rw [rounded, h, Int.cast_natCast]

theorem mantissa_bounds {n : ℕ} (hn : nearest (q / 2 ^ place q) = n) (hq : 0 < q) :
    n ≤ 2 ^ 53 ∧ (2 ^ 52 ≤ n ∨ place q = -1074) := by
  have hpos := two_zpow_pos (place q)
  have hrounded := rounded_of_nearest hn
  have htop := rounded_le_top hq
  rw [show place q + 53 = place q + (53 : ℕ) from rfl, two_zpow_add, hrounded] at htop
  refine ⟨by exact_mod_cast le_of_mul_le_mul_right htop hpos, ?_⟩
  rcases (place_low q).lt_or_eq with hlow | hlow
  · have hbottom := bottom_le_rounded hq hlow
    rw [show place q + 52 = place q + (52 : ℕ) from rfl, two_zpow_add, hrounded] at hbottom
    exact Or.inl (by exact_mod_cast le_of_mul_le_mul_right hbottom hpos)
  · exact Or.inr hlow.symm

/-- Rounding may carry into one more digit, but then the mantissa is a power of two and loses nothing
when it is shifted once more. -/
theorem rounds_roundWithAccuracy
    (h : Represents (.ofMantissaAndAccuracy m accuracy) (q / 2 ^ e)) (hq : 0 < q)
    (hlarge : 2 ^ 52 ≤ m ∨ e ≤ -1074) :
    Rounds s q (roundWithAccuracy .binary64 s m e accuracy) := by
  have htarget := target_of_represents h hq hlarge
  have hlow := place_low q
  have hle : e ≤ place q := by
    rw [← htarget, target_eq, totalExponent]
    rcases hlarge with hfull | hsmall
    · have hlog := (Nat.le_log2 (by omega : m ≠ 0)).mpr hfull
      omega
    · omega
  obtain ⟨k, hk⟩ : ∃ k : ℕ, place q = e + k := ⟨(place q - e).toNat, by omega⟩
  have hshifted := h.shiftRight k
  rw [div_div, mul_comm, ← two_zpow_add, ← hk] at hshifted
  have hfirst : shiftToTargetExponent .binary64 m e accuracy =
      (ExtendedMantissa.ofMantissaAndAccuracy m accuracy >>> k, e + k) :=
    shiftToTarget_eq (by omega) htarget
  rw [← hk] at hfirst
  generalize ExtendedMantissa.ofMantissaAndAccuracy m accuracy >>> k = shifted at hshifted hfirst
  have hnearest := hshifted.nearest
  obtain ⟨hmost, hfull⟩ := mantissa_bounds hnearest hq
  have hrounded := rounded_of_nearest hnearest
  rcases hmost.lt_or_eq with hn | hn
  · rw [roundWithAccuracy_eq hfirst (shiftToTarget_keep hlow hn)]
    split
    · rename_i hzero
      have hnone : shifted.roundedMantissa = 0 := hzero
      exact .zero (by rw [hrounded, hnone, Nat.cast_zero, zero_mul])
    · exact .finite _ ⟨hn, hlow, hfull⟩ hrounded
  · have hne : (2 ^ 52 : ℕ) ≠ 0 := by decide
    rw [hn] at hrounded
    rw [roundWithAccuracy_eq hfirst (hn ▸ shiftToTarget_carry hlow), dif_neg hne]
    refine .finite _ ⟨Nat.pow_lt_pow_right (by decide) (by decide), by omega, Or.inl le_rfl⟩ ?_
    rw [hrounded, zpow_add_one₀ two_ne_zero]
    push_cast
    ring

end Tableaux.Decimal
