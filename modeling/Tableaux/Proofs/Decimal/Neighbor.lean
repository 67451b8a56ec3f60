import Tableaux.Proofs.Decimal.Operation

/-!
# Neighboring floats

Between a float and the one whose mantissa is one larger there is no other, and a float other than zero
is determined by its exact value.
-/
namespace Tableaux.Decimal

open Float.Model
open Float.Model.UnpackedFloat (Sign)

variable {m n : ℕ} {e f : ℤ} {a b x : Float}

theorem scaled_shift (m n : ℕ) (e : ℤ) : scaled m (e + n) = scaled (m * 2 ^ n) e := by
  rw [scaled, scaled, two_zpow_add, Nat.cast_mul, Nat.cast_pow, Nat.cast_ofNat, mul_assoc]

theorem scaled_double (m : ℕ) (e : ℤ) : scaled (2 * m) (e - 1) = scaled m e := by
  have hshift := scaled_shift m 1 (e - 1)
  rwa [Nat.cast_one, Int.sub_add_cancel, pow_one, mul_comm, eq_comm] at hshift

theorem scaled_le_scaled (e : ℤ) (h : m ≤ n) : scaled m e ≤ scaled n e :=
  mul_le_mul_of_nonneg_right (by exact_mod_cast h) (two_zpow_pos e).le

theorem lt_of_scaled_lt (h : scaled m e < scaled n e) : m < n := by
  by_contra hle
  exact absurd h (not_lt_of_ge (scaled_le_scaled e (not_lt.mp hle)))

theorem scaled_succ_le (hm : Regular m e) (hn : Regular n f) (h : scaled m e < scaled n f) :
    scaled (m + 1) e ≤ scaled n f := by
  have hle : e ≤ f := by
    by_contra hlt
    exact absurd h (scaled_lt hn hm (by omega)).not_gt
  obtain ⟨k, rfl⟩ := Int.le.dest hle
  rw [scaled_shift] at h ⊢
  exact scaled_le_scaled e (lt_of_scaled_lt h)

theorem scaled_inj (hm : Regular m e) (hn : Regular n f) (h : scaled m e = scaled n f) :
    m = n ∧ e = f := by
  have hcompare := compare_scaled hm hn
  rw [compare_eq_iff_eq.mpr h, Ordering.then_eq_eq, compare_eq_iff_eq, compare_eq_iff_eq] at hcompare
  exact hcompare.symm

/-- Floats with the same sign whose mantissas are neighbors. -/
structure Neighbors (a b : Float) : Prop where
  finite : a.isFinite = true ∧ b.isFinite = true
  next : ∃ m e, ∃ (hm : 0 < m), a.toModel.unpack = .finite .positive m e hm ∧
    b.toModel.unpack = .finite .positive (m + 1) e m.succ_pos

theorem Neighbors.split (h : Neighbors a b) (hx : x.isFinite = true) :
    exact x ≤ exact a ∨ exact b ≤ exact x := by
  obtain ⟨-, m, e, hm, ha, hb⟩ := h
  have hr := (regular_unpack ha).1
  have hpos := scaled_pos e hm
  have hu := unpacks_finite hx
  rw [exact, exact, exact, ha, hb, worth_finite, worth_finite]
  generalize x.toModel.unpack = u at hu ⊢
  cases hu with
  | zero s => exact Or.inl hpos.le
  | @finite s n f hn hrn hf =>
    rw [worth_finite]
    cases s with
    | negative => exact Or.inl (by have := scaled_pos f hn; dsimp only; linarith)
    | positive =>
      rcases le_or_gt (scaled n f) (scaled m e) with hle | hlt
      · exact Or.inl hle
      · exact Or.inr (scaled_succ_le hr hrn hlt)

theorem exact_inj (ha : a.isFinite = true) (hb : b.isFinite = true) (h : exact a = exact b)
    (hne : exact a ≠ 0) : a = b := by
  have hmodel : a.toModel.unpack = b.toModel.unpack := by
    have hu := unpacks_finite ha
    have hv := unpacks_finite hb
    rw [exact] at h hne
    rw [exact] at h
    generalize a.toModel.unpack = u at hu h hne ⊢
    generalize b.toModel.unpack = v at hv h ⊢
    cases hu with
    | zero s => exact absurd rfl hne
    | @finite s m e hm hr he =>
      have hpos := scaled_pos e hm
      cases hv with
      | zero t => exact absurd h hne
      | @finite t n f hn hrn hf =>
        have hpos' := scaled_pos f hn
        rw [worth_finite, worth_finite] at h
        cases s <;> cases t <;> dsimp only at h
        · obtain ⟨rfl, rfl⟩ := scaled_inj hr hrn (neg_inj.mp h)
          rfl
        · linarith
        · linarith
        · obtain ⟨rfl, rfl⟩ := scaled_inj hr hrn h
          rfl
  have hsame : a.toModel = b.toModel := by
    rw [← pack_unpack_model a.toModel, hmodel, pack_unpack_model]
  cases a
  cases b
  exact congrArg _ hsame

end Tableaux.Decimal
