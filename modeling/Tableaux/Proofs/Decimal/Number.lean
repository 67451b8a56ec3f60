import Tableaux.Proofs.Decimal.Binary64
import Tableaux.Proofs.Decimal.Unpacked

/-!
# Floats that are numbers

NaN stands for no number, and whatever digits and an exponent are read as is one. Adding zero
keeps a number, finite or not, but turns the negative zero into zero.
-/
namespace Tableaux.Decimal

open Float.Model
open Float.Model.UnpackedFloat (Sign infinity notANumber packComponents zero)

variable {s : Sign} {mantissa : Nat} {exponent : Int} {u v : UnpackedFloat}

theorem isNaN_unpack {field : BitVec 11} (h : field ≠ -1#11) (s : Sign) (fraction : BitVec 52) :
    (UnpackedFloat.unpack .binary64 (packComponents .binary64 s field fraction)).isNaN = false := by
  unfold UnpackedFloat.unpack
  simp only [UnpackedFloat.unpackExponent_packComponents]
  rw [if_neg h]
  split
  · split <;> rfl
  · rfl

theorem isNaN_pack (h : u.isNaN = false) : (pack u).unpack.isNaN = false := by
  cases u with
  | notANumber => cases h
  | infinity s => rw [unpack_pack_infinity]; rfl
  | zero s => rw [unpack_pack_zero]; rfl
  | finite s m e hm =>
    rw [Float.Model.unpack, Float.Model.pack]
    dsimp only
    unfold UnpackedFloat.pack
    dsimp only
    split
    · exact congrArg UnpackedFloat.isNaN (unpack_last s 0#52)
    · rename_i hfield
      have hlimit : 2 ^ Format.binary64.exponentBits = 2048 := by decide
      rw [hlimit] at hfield
      split
      · refine isNaN_unpack (fun he => ?_) s _
        have hlast := congrArg BitVec.toNat he
        rw [BitVec.toNat_ofNat, Nat.mod_eq_of_lt (by omega)] at hlast
        have hall : (-1#11).toNat = 2047 := by decide
        omega
      · exact isNaN_unpack (by decide) s _

theorem isNaN_round (s : Sign) (m : Nat) (e : Int) (accuracy : UnpackedFloat.Accuracy) :
    (UnpackedFloat.roundWithAccuracy .binary64 s m e accuracy).isNaN = false := by
  unfold UnpackedFloat.roundWithAccuracy
  dsimp only
  split <;> rfl

def isProper : UnpackedFloat → Bool
  | .finite .. => true
  | _ => false

theorem isNaN_mul (hu : u.isNaN = false) (hv : isProper v = true) :
    (UnpackedFloat.mul .binary64 u v).isNaN = false := by
  cases v with
  | infinity | notANumber | zero => cases hv
  | finite s m e hm =>
    cases u with
    | notANumber => cases hu
    | infinity | zero => rfl
    | finite => exact isNaN_round ..

theorem isNaN_div (hu : u.isNaN = false) (hv : isProper v = true) :
    (UnpackedFloat.div .binary64 u v).isNaN = false := by
  cases v with
  | infinity | notANumber | zero => cases hv
  | finite s m e hm =>
    cases u with
    | notANumber => cases hu
    | infinity | zero => rfl
    | finite => exact isNaN_round ..

theorem isNaN_ofNat (n : Nat) : (UnpackedFloat.ofNat .binary64 n).isNaN = false := by
  unfold UnpackedFloat.ofNat UnpackedFloat.ofInt UnpackedFloat.normalize
  split
  · exact isNaN_round ..
  · rfl
  · exact isNaN_round ..

theorem powersOfTen_proper :
    Float.exactlyRepresentablePowersOfTen.all (fun p => isProper p.toModel.unpack) = true := by
  decide +kernel

theorem isNaN_scientific (m : Nat) (e : Int) :
    (UnpackedFloat.ofScientific .binary64 m e).isNaN = false := by
  unfold UnpackedFloat.ofScientific
  by_cases hzero : m = 0
  · rw [dif_pos hzero]
    rfl
  rw [dif_neg hzero]
  by_cases hlarge : e > 2 ^ Format.binary64.exponentBits
  · rw [if_pos hlarge]
    rfl
  rw [if_neg hlarge]
  by_cases hsmall : e < -((2 ^ Format.binary64.exponentBits : Int) + m.log2)
  · rw [if_pos hsmall]
    rfl
  rw [if_neg hsmall]
  by_cases hsign : 0 ≤ e
  · rw [if_pos hsign]
    exact isNaN_mul rfl rfl
  · rw [if_neg hsign]
    exact isNaN_div rfl rfl

/-- Digits with an exponent stand for a number, if only for an infinite one. -/
theorem isNaN_ofScientific (m : Nat) (negative : Bool) (e : Nat) :
    (Float.ofScientific m negative e).isNaN = false := by
  unfold Float.ofScientific
  split
  · rename_i h
    have hsize : e < Float.exactlyRepresentablePowersOfTen.size := Nat.lt_succ_of_le h.2
    have hproper := Array.all_eq_true.mp powersOfTen_proper e hsize
    have hm : m.toUInt64.toFloat.toModel.unpack.isNaN = false := isNaN_pack (isNaN_ofNat _)
    cases negative with
    | true => exact isNaN_pack (isNaN_div hm hproper)
    | false => exact isNaN_pack (isNaN_mul hm hproper)
  · exact isNaN_pack (isNaN_scientific m _)

theorem isNaN_neg {x : Float} (h : x.isNaN = false) : (-x).isNaN = false := by
  have hx : x.toModel.unpack.isNaN = false := h
  refine isNaN_pack ?_
  cases hu : x.toModel.unpack with
  | notANumber => rw [hu] at hx; cases hx
  | infinity | zero | finite => rfl

/-- Adding zero only turns the negative zero into zero, also among the infinite numbers. -/
theorem add_zero_eq {x : Float} (h : x.isNaN = false) : x + 0 = if x == 0 then 0 else x := by
  have hpack := pack_unpack_model x.toModel
  have hadd := add_zero_model x
  have hnumber : x.toModel.unpack.isNaN = false := h
  have hbeq : (x == 0) = x.toModel.unpack.beq (zero .positive) := rfl
  rw [hbeq]
  cases hx : x.toModel.unpack with
  | notANumber => rw [hx] at hnumber; cases hnumber
  | infinity s =>
    rw [hx] at hadd hpack
    cases s <;> exact congrArg Float.ofModel (hadd.trans hpack)
  | finite s m e hm =>
    rw [hx] at hadd hpack
    cases s <;> exact congrArg Float.ofModel (hadd.trans hpack)
  | zero s =>
    rw [hx] at hadd
    cases s <;> exact congrArg Float.ofModel hadd
end Tableaux.Decimal
