import Mathlib

/-!
# Finite floats

A finite float equals itself, and it equals itself after zero has been added: adding
zero only replaces the negative zero.
-/
namespace Tableaux.Decimal

open Float.Model
open Float.Model.UnpackedFloat (zero)

theorem zero_finite : (0 : Float).isFinite = true := by decide

theorem ne_nan_of_finite {x : Float} (h : x.isFinite = true) : x ≠ Float.nan := by
  rintro rfl
  exact absurd h (by decide)

theorem isNaN_of_finite {x : Float} (h : x.isFinite = true) : x.isNaN = false := by
  rw [Float.isNaN_eq_decide_eq_nan, decide_eq_false (ne_nan_of_finite h)]

theorem beq_self_of_finite {x : Float} (h : x.isFinite = true) : (x == x) = true :=
  Float.beq_self_iff.mpr (ne_nan_of_finite h)

theorem pack_unpack_model (v : Float.Model) : pack v.unpack = v := by
  have hbits : UnpackedFloat.pack .binary64 v.unpack = v.toBits.toBitVec :=
    UnpackedFloat.pack_unpack_of_valid v.valid
  cases v
  simp only [pack, hbits]

theorem add_zero_model (x : Float) :
    (x + 0).toModel = pack (UnpackedFloat.add .binary64 x.toModel.unpack (zero .positive)) := by
  have hzero : (0 : Float).toModel.unpack = zero .positive := by rfl
  rw [← hzero]
  rfl

theorem add_zero_cases {x : Float} (h : x.isFinite = true) :
    x + 0 = x ∨ x = -0 ∧ x + 0 = 0 := by
  have hpack := pack_unpack_model x.toModel
  have hadd := add_zero_model x
  have hfinite : x.toModel.unpack.isFinite = true := h
  -- The sum is packed from the operand itself, unless that is a zero.
  cases hx : x.toModel.unpack with
  | infinity s => rw [hx] at hfinite; cases hfinite
  | notANumber => rw [hx] at hfinite; cases hfinite
  | finite s m e hm =>
    rw [hx] at hadd hpack
    exact Or.inl (congrArg Float.ofModel (hadd.trans hpack))
  | zero s =>
    rw [hx] at hadd hpack
    cases s with
    | positive => exact Or.inl (congrArg Float.ofModel (hadd.trans hpack))
    | negative =>
      have hx : x = -0 := congrArg Float.ofModel hpack.symm
      exact Or.inr ⟨hx, congrArg Float.ofModel hadd⟩

theorem add_zero_finite {x : Float} (h : x.isFinite = true) : (x + 0).isFinite = true := by
  rcases add_zero_cases h with hsum | ⟨-, hsum⟩
  · rw [hsum]
    exact h
  · rw [hsum]
    exact zero_finite

theorem add_zero_beq {x : Float} (h : x.isFinite = true) :
    (x + 0 == x) = true ∧ (x == x + 0) = true := by
  rcases add_zero_cases h with hsum | ⟨hx, hsum⟩
  · rw [hsum]
    exact ⟨beq_self_of_finite h, beq_self_of_finite h⟩
  · rw [hsum, hx]
    exact ⟨by decide, by decide⟩

end Tableaux.Decimal
