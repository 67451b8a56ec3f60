import Mathlib

/-!
# Unpacked floats

A finite float is a mantissa of 53 binary digits times a power of two, and only among the smallest
floats the mantissa has fewer digits. Packing such a number and unpacking it again gives it back,
or an infinity if the exponent is too large.
-/
namespace Tableaux.Decimal

open Float.Model
open Float.Model.UnpackedFloat (Sign infinity notANumber packComponents unpackExponent
  unpackMantissa unpackSign zero)

variable {s : Sign} {mantissa : Nat} {exponent : Int} {v : Float.Model}

/-- The mantissa is full unless the exponent is the smallest one. -/
structure Regular (mantissa : Nat) (exponent : Int) : Prop where
  bounded : mantissa < 2 ^ 53
  low : -1074 ≤ exponent
  full : 2 ^ 52 ≤ mantissa ∨ exponent = -1074

theorem toNat_append_one (fraction : BitVec 52) :
    (1#1 ++ fraction).toNat = 2 ^ 52 + fraction.toNat := by
  rw [BitVec.toNat_append, ← Nat.shiftLeft_add_eq_or_of_lt fraction.isLt]
  rfl

theorem field_lt {field : BitVec 11} (h : field ≠ -1#11) : field.toNat < 2047 := by
  have hlt := field.isLt
  have hne : field.toNat ≠ 2047 := fun he => h (BitVec.eq_of_toNat_eq he)
  omega

theorem field_pos {field : BitVec 11} (h : field ≠ 0#11) : 0 < field.toNat := by
  have hne : field.toNat ≠ 0 := fun he => h (BitVec.eq_of_toNat_eq he)
  omega

theorem field_ofNat {n : Nat} (hpos : 0 < n) (h : n < 2047) :
    (BitVec.ofNat 11 n).toNat = n ∧ BitVec.ofNat 11 n ≠ -1#11 ∧ BitVec.ofNat 11 n ≠ 0#11 := by
  have hn : (BitVec.ofNat 11 n).toNat = n := by
    rw [BitVec.toNat_ofNat]
    omega
  refine ⟨hn, fun he => ?_, fun he => ?_⟩
  · have hlast : n = 2047 := by rw [← hn, he]; rfl
    omega
  · have hfirst : n = 0 := by rw [← hn, he]; rfl
    omega

theorem unpack_last (s : Sign) (fraction : BitVec 52) :
    UnpackedFloat.unpack .binary64 (packComponents .binary64 s (-1#11) fraction) =
      if fraction = 0#52 then infinity s else notANumber := by
  unfold UnpackedFloat.unpack
  simp only [UnpackedFloat.unpackExponent_packComponents, Sign.ofBitVec_toBitVec,
    UnpackedFloat.unpackMantissa_packComponents, UnpackedFloat.unpackSign_packComponents]
  rfl

theorem unpack_subnormal (s : Sign) {fraction : BitVec 52} (h : 0 < fraction.toNat) :
    UnpackedFloat.unpack .binary64 (packComponents .binary64 s 0#11 fraction) =
      .finite s fraction.toNat (-1074) h := by
  have hne : fraction ≠ 0#52 := by
    rintro rfl
    exact absurd h (by decide)
  unfold UnpackedFloat.unpack
  simp only [UnpackedFloat.unpackExponent_packComponents, Sign.ofBitVec_toBitVec,
    UnpackedFloat.unpackMantissa_packComponents, UnpackedFloat.unpackSign_packComponents]
  rw [if_neg (by decide), if_pos trivial, dif_neg hne]
  rfl

theorem unpack_normal (s : Sign) {field : BitVec 11} (hlast : field ≠ -1#11)
    (hfirst : field ≠ 0#11) (fraction : BitVec 52) :
    UnpackedFloat.unpack .binary64 (packComponents .binary64 s field fraction) =
      .finite s (2 ^ 52 + fraction.toNat) (field.toNat - 1075) (by omega) := by
  unfold UnpackedFloat.unpack
  simp only [UnpackedFloat.unpackExponent_packComponents, Sign.ofBitVec_toBitVec,
    UnpackedFloat.unpackMantissa_packComponents, UnpackedFloat.unpackSign_packComponents]
  rw [if_neg hlast, if_neg hfirst, UnpackedFloat.finite.injEq]
  exact ⟨rfl, toNat_append_one fraction, rfl⟩

theorem regular_unpack {h : 0 < mantissa} (hv : v.unpack = .finite s mantissa exponent h) :
    Regular mantissa exponent ∧ exponent ≤ 971 := by
  have hbits := @UnpackedFloat.packComponents_unpackSign_unpackExponent_unpackMantissa .binary64
    v.toBits.toBitVec
  have hfraction : (@unpackMantissa .binary64 v.toBits.toBitVec).toNat < 2 ^ 52 :=
    BitVec.isLt _
  generalize @unpackMantissa .binary64 v.toBits.toBitVec = fraction at hbits hfraction
  generalize @unpackExponent .binary64 v.toBits.toBitVec = field at hbits
  rw [Float.Model.unpack, ← hbits] at hv
  by_cases hlast : field = -1#11
  · subst hlast
    rw [unpack_last] at hv
    split at hv <;> cases hv
  · by_cases hfirst : field = 0#11
    · subst hfirst
      by_cases hzero : fraction = 0#52
      · subst hzero
        rw [show packComponents .binary64 _ 0#11 0#52 = UnpackedFloat.packedZero .binary64 _ from rfl,
          UnpackedFloat.unpack_packedZero] at hv
        cases hv
      · have hpos : 0 < fraction.toNat := by
          rw [Nat.pos_iff_ne_zero]
          exact fun he => hzero (BitVec.eq_of_toNat_eq he)
        rw [unpack_subnormal _ hpos] at hv
        obtain ⟨-, rfl, rfl⟩ := UnpackedFloat.finite.inj hv
        exact ⟨⟨by omega, by decide, Or.inr rfl⟩, by decide⟩
    · rw [unpack_normal _ hlast hfirst] at hv
      obtain ⟨-, rfl, rfl⟩ := UnpackedFloat.finite.inj hv
      have hlt := field_lt hlast
      have hpos := field_pos hfirst
      exact ⟨⟨by omega, by omega, Or.inl (by omega)⟩, by omega⟩

theorem pack_eq (s : Sign) (h : 0 < mantissa) (hr : Regular mantissa exponent) :
    UnpackedFloat.pack .binary64 (.finite s mantissa exponent h) =
      if 971 < exponent then UnpackedFloat.packedInfinity .binary64 s
      else if 2 ^ 52 ≤ mantissa then
        packComponents .binary64 s (BitVec.ofNat 11 (exponent + 1075).toNat)
          (BitVec.ofNat 52 mantissa)
      else packComponents .binary64 s 0#11 (BitVec.ofNat 52 mantissa) := by
  have hlow := hr.low
  have hbounded := hr.bounded
  have hlog : mantissa.log2 + 1 = 53 ↔ 2 ^ 52 ≤ mantissa := by
    have hle := Nat.le_log2 (k := 52) h.ne'
    have hlt := Nat.log2_lt (k := 53) h.ne'
    omega
  have hbias : (exponent + (Format.binary64.exponentBias : Nat) +
      (Format.binary64.mantissaBitsWithoutImplicit : Nat)).toNat = (exponent + 1075).toNat := by
    have hb : ((Format.binary64.exponentBias : Nat) : Int) = 1023 := by decide
    have hm : ((Format.binary64.mantissaBitsWithoutImplicit : Nat) : Int) = 52 := by decide
    rw [hb, hm]
    omega
  have hhigh : 2 ^ Format.binary64.exponentBits ≤ (exponent + 1075).toNat + 1 ↔
      971 < exponent := by
    have hp : 2 ^ Format.binary64.exponentBits = 2048 := by decide
    rw [hp]
    omega
  unfold UnpackedFloat.pack
  simp only [hbias, hhigh]
  congr 1
  simp only [← hlog]
  rfl

theorem unpack_pack_finite (s : Sign) (h : 0 < mantissa) (hr : Regular mantissa exponent)
    (hhigh : exponent ≤ 971) :
    (pack (.finite s mantissa exponent h)).unpack = .finite s mantissa exponent h := by
  have hbounded := hr.bounded
  have hlow := hr.low
  rw [Float.Model.unpack, Float.Model.pack]
  dsimp only
  rw [pack_eq s h hr, if_neg (by omega)]
  by_cases hfull : 2 ^ 52 ≤ mantissa
  · obtain ⟨hfield, hlast, hfirst⟩ := field_ofNat (n := (exponent + 1075).toNat) (by omega) (by omega)
    rw [if_pos hfull, unpack_normal _ hlast hfirst, UnpackedFloat.finite.injEq, hfield,
      BitVec.toNat_ofNat]
    exact ⟨rfl, by omega, by omega⟩
  · have hfraction : (BitVec.ofNat 52 mantissa).toNat = mantissa := by
      rw [BitVec.toNat_ofNat]
      omega
    rw [if_neg hfull, unpack_subnormal s (by omega), UnpackedFloat.finite.injEq]
    exact ⟨rfl, hfraction, (hr.full.resolve_left hfull).symm⟩

theorem unpack_pack_infinity (s : Sign) : (pack (infinity s)).unpack = infinity s := by
  cases s <;> rfl

theorem unpack_pack_overflow (s : Sign) (h : 0 < mantissa) (hr : Regular mantissa exponent)
    (hhigh : 971 < exponent) :
    (pack (.finite s mantissa exponent h)).unpack = infinity s := by
  rw [Float.Model.unpack, Float.Model.pack]
  dsimp only
  rw [pack_eq s h hr, if_pos hhigh]
  exact unpack_last s 0#52

theorem unpack_pack_zero (s : Sign) : (pack (zero s)).unpack = zero s := by
  cases s <;> rfl

end Tableaux.Decimal
