import Tableaux.Proofs.Decimal.Neighbor

/-!
# Sums, and operations that overflow

A sum of finite floats is the exact one, rounded and held within the floats, and an infinite operand
is the sum. So sums, products and quotients keep the order of what they are made of also where they
overflow.
-/
namespace Tableaux.Decimal

open Float.Model
open Float.Model.UnpackedFloat (Sign decreaseExponent infinity notANumber zero)

variable {m n : ℕ} {k e f low : ℤ} {a b x y : Float} {s t : Sign} {u v : UnpackedFloat}

theorem scaled_decrease (m : ℕ) (h : low ≤ e) :
    ((s.apply (decreaseExponent m e low).1 : ℤ) : ℚ) * 2 ^ low = signum s * scaled m e := by
  have hshift : (decreaseExponent m e low).1 = m * 2 ^ (e - low).toNat := Nat.shiftLeft_eq ..
  have hscaled : scaled m e = scaled (m * 2 ^ (e - low).toNat) low := by
    rw [← scaled_shift]
    congr 1
    omega
  rw [hshift, hscaled, scaled]
  cases s with
  | negative =>
    rw [Sign.apply, signum, Int.cast_neg, Int.cast_natCast]
    ring
  | positive => rw [Sign.apply, signum, Int.cast_natCast, one_mul]

theorem held_exact (h : x.isFinite = true) : held (exact x) = exact x := by
  have hu := unpacks_finite h
  rw [exact]
  generalize x.toModel.unpack = u at hu ⊢
  cases hu with
  | zero s => rw [worth_zero, held_zero]
  | finite s hm hr he => rw [worth, held_signum, held_scaled hr.bounded hr.low he]

/-- A sum of finite floats is the exact sum, rounded. -/
theorem exact_add (hx : x.isFinite = true) (hy : y.isFinite = true) :
    exact (x + y) = held (exact x + exact y) := by
  have hheld := held_exact hx
  have hheld' := held_exact hy
  have hu := unpacks_finite hx
  have hv := unpacks_finite hy
  have hsum : exact (x + y) =
      worth (pack (UnpackedFloat.add .binary64 x.toModel.unpack y.toModel.unpack)).unpack := rfl
  rw [hsum]
  rw [exact] at hheld hheld' ⊢
  rw [exact]
  generalize x.toModel.unpack = u at hu hheld ⊢
  generalize y.toModel.unpack = v at hv hheld' ⊢
  cases hu with
  | zero s =>
    rw [worth_zero, zero_add, hheld']
    cases hv with
    | zero t =>
      obtain ⟨r, hr⟩ : ∃ r, UnpackedFloat.add .binary64 (.zero s) (.zero t) = .zero r := by
        cases s <;> cases t <;> exact ⟨_, rfl⟩
      rw [hr, unpack_pack_zero, worth_zero, worth_zero]
    | finite t hn ht hf => exact congrArg worth (unpack_pack_finite t hn ht hf)
  | finite s hm hr he =>
    cases hv with
    | zero t =>
      rw [worth_zero, add_zero, hheld]
      exact congrArg worth (unpack_pack_finite s hm hr he)
    | finite t hn ht hf =>
      unfold UnpackedFloat.add
      dsimp only
      rw [worth_normalize, Int.cast_add, add_mul, scaled_decrease _ (min_le_left _ _),
        scaled_decrease _ (min_le_right _ _), worth, worth]

theorem abs_exact_le (h : x.isNaN = false) : |exact x| ≤ limit := by
  by_cases hfinite : x.isFinite = true
  · exact ((isFinite_iff h).mp hfinite).le
  · have hu := unpacks h
    have hinfinite : x.toModel.unpack.isFinite ≠ true := hfinite
    rw [exact]
    generalize x.toModel.unpack = u at hu hinfinite ⊢
    cases hu with
    | infinity s =>
      rw [worth_infinity]
      cases s
      · exact (abs_neg limit).trans (abs_of_pos limit_pos) |>.le
      · exact (abs_of_pos limit_pos).le
    | zero | finite => exact absurd rfl hinfinite

theorem exact_infinite (h : x.isNaN = false) (hinfinite : ¬ x.isFinite = true) :
    exact x = limit ∨ exact x = -limit := by
  rw [isFinite_iff h, not_lt] at hinfinite
  exact (abs_eq limit_pos.le).mp (le_antisymm (abs_exact_le h) hinfinite)

theorem unpack_infinite (h : x.isNaN = false) (hinfinite : ¬ x.isFinite = true) :
    ∃ s, x.toModel.unpack = .infinity s := by
  have hu := unpacks h
  have hmodel : x.toModel.unpack.isFinite ≠ true := hinfinite
  generalize x.toModel.unpack = u at hu hmodel ⊢
  cases hu with
  | infinity s => exact ⟨s, rfl⟩
  | zero | finite => exact absurd rfl hmodel

theorem exact_add_infinite (hx : x.isFinite = true) (hy : y.isNaN = false)
    (hinfinite : ¬ y.isFinite = true) : exact (x + y) = exact y := by
  obtain ⟨s, hs⟩ := unpack_infinite hy hinfinite
  have hu := unpacks_finite hx
  have hsum : exact (x + y) =
      worth (pack (UnpackedFloat.add .binary64 x.toModel.unpack y.toModel.unpack)).unpack := rfl
  rw [hsum, exact, hs]
  generalize x.toModel.unpack = u at hu ⊢
  cases hu <;> exact congrArg worth (unpack_pack_infinity s)

theorem isNaN_normalize (k e : ℤ) (s : Sign) : (UnpackedFloat.normalize .binary64 k e s).isNaN = false := by
  unfold UnpackedFloat.normalize
  split
  · exact isNaN_round ..
  · rfl
  · exact isNaN_round ..

theorem isNaN_add (hx : x.isFinite = true) : (x + y).isNaN = y.isNaN := by
  have hu := unpacks_finite hx
  have hsum : (x + y).isNaN =
      (pack (UnpackedFloat.add .binary64 x.toModel.unpack y.toModel.unpack)).unpack.isNaN := rfl
  have hnumber : y.isNaN = y.toModel.unpack.isNaN := rfl
  rw [hsum, hnumber]
  generalize x.toModel.unpack = u at hu ⊢
  generalize y.toModel.unpack = v
  cases v with
  | notANumber =>
    have hnan : (pack notANumber).unpack.isNaN = true := by rfl
    cases hu <;> exact hnan
  | infinity t => cases hu <;> exact isNaN_pack rfl
  | zero t =>
    cases hu with
    | zero s => cases s <;> cases t <;> exact isNaN_pack rfl
    | finite => exact isNaN_pack rfl
  | finite t n f hn =>
    cases hu with
    | zero s => exact isNaN_pack rfl
    | finite => exact isNaN_pack (isNaN_normalize ..)

theorem exact_add_mono (hx : x.isFinite = true) (ha : a.isNaN = false) (hb : b.isNaN = false)
    (h : exact a ≤ exact b) : exact (x + a) ≤ exact (x + b) := by
  have hsum := abs_le.mp (abs_exact_le ((isNaN_add hx).trans ha))
  have hsum' := abs_le.mp (abs_exact_le ((isNaN_add hx).trans hb))
  by_cases hfa : a.isFinite = true
  · by_cases hfb : b.isFinite = true
    · rw [exact_add hx hfa, exact_add hx hfb]
      exact held_mono (by linarith)
    · rw [exact_add_infinite hx hb hfb]
      rcases exact_infinite hb hfb with hlimit | hlimit
      · exact hlimit ▸ hsum.2
      · have hfinite := abs_lt.mp ((isFinite_iff ha).mp hfa)
        linarith
  · rw [exact_add_infinite hx ha hfa]
    rcases exact_infinite ha hfa with hlimit | hlimit
    · have hfb : ¬ b.isFinite = true := fun hfinite => by
        have hless := abs_lt.mp ((isFinite_iff hb).mp hfinite)
        linarith
      rw [exact_add_infinite hx hb hfb]
      exact h
    · exact hlimit ▸ hsum'.1

theorem sub_eq_add_neg_float (x : Float) (hy : y.isNaN = false) : x - y = x + -y := by
  have hv := unpacks hy
  have hneg : (-y).toModel.unpack = y.toModel.unpack.neg := by
    have hpack : (-y).toModel.unpack = (pack y.toModel.unpack.neg).unpack := rfl
    rw [hpack]
    generalize y.toModel.unpack = v at hv ⊢
    cases hv with
    | infinity t => exact unpack_pack_infinity _
    | zero t => exact unpack_pack_zero _
    | finite t hn ht hf => exact unpack_pack_finite _ hn ht hf
  have hsum : UnpackedFloat.sub .binary64 x.toModel.unpack y.toModel.unpack =
      UnpackedFloat.add .binary64 x.toModel.unpack (-y).toModel.unpack := by
    rw [hneg]
    generalize x.toModel.unpack = u
    generalize y.toModel.unpack = v at hv
    cases hv with
    | infinity t => cases u <;> rfl
    | zero t => cases u <;> rfl
    | finite t hn ht hf =>
      cases u with
      | notANumber | infinity | zero => rfl
      | finite s m e hm =>
        have happly : ∀ j k : ℤ, j - t.apply k = j + (-t).apply k := by
          intro j k
          cases t with
          | negative => exact Int.sub_neg j k
          | positive => exact Int.sub_eq_add_neg
        unfold UnpackedFloat.sub UnpackedFloat.neg UnpackedFloat.add
        dsimp only
        rw [happly]
  exact congrArg (fun w => Float.ofModel (pack w)) hsum

theorem isNaN_sub (hx : x.isFinite = true) : (x - y).isNaN = y.isNaN := by
  cases hy : y.isNaN with
  | false => rw [sub_eq_add_neg_float x hy, isNaN_add hx, isNaN_neg hy]
  | true =>
    have hu := unpacks_finite hx
    have hdifference : (x - y).isNaN =
        (pack (UnpackedFloat.sub .binary64 x.toModel.unpack y.toModel.unpack)).unpack.isNaN := rfl
    have hnumber : y.toModel.unpack.isNaN = true := hy
    have hnan : (pack notANumber).unpack.isNaN = true := by rfl
    rw [hdifference]
    generalize x.toModel.unpack = u at hu ⊢
    generalize y.toModel.unpack = v at hnumber ⊢
    cases v with
    | notANumber => cases hu <;> exact hnan
    | infinity | zero | finite => cases hnumber

theorem exact_sub_anti (hx : x.isFinite = true) (ha : a.isNaN = false) (hb : b.isNaN = false)
    (h : exact a ≤ exact b) : exact (x - b) ≤ exact (x - a) := by
  rw [sub_eq_add_neg_float x ha, sub_eq_add_neg_float x hb]
  refine exact_add_mono hx (isNaN_neg hb) (isNaN_neg ha) ?_
  rw [exact_neg ha, exact_neg hb]
  exact neg_le_neg h

theorem exact_sub_self (hx : x.isFinite = true) : exact (x - x) = 0 := by
  have hnumber := isNaN_of_finite hx
  rw [sub_eq_add_neg_float x hnumber, exact_add hx (isFinite_neg hx), exact_neg hnumber, add_neg_cancel,
    held_zero]

/-- Products with a nonnegative number are ordered as their first operands are, and those with a number
that is not positive are ordered against them. -/
theorem exact_mul_mono (ha : a.isFinite = true) (hb : b.isFinite = true) (hy : y.isFinite = true)
    (h : exact a ≤ exact b) :
    (0 ≤ exact y → exact (a * y) ≤ exact (b * y)) ∧
      (exact y ≤ 0 → exact (b * y) ≤ exact (a * y)) := by
  rw [exact_mul ha hy, exact_mul hb hy]
  exact ⟨fun hsign => held_mono (mul_le_mul_of_nonneg_right h hsign),
    fun hsign => held_mono (mul_le_mul_of_nonpos_right h hsign)⟩

theorem exact_div_sign (hx : x.isNaN = false) (hsign : 0 ≤ exact x) (hy : y.isFinite = true)
    (hne : exact y ≠ 0) :
    (0 < exact y → 0 ≤ exact (x / y)) ∧ (exact y < 0 → exact (x / y) ≤ 0) := by
  by_cases hfinite : x.isFinite = true
  · rw [exact_div hfinite hy hne]
    refine ⟨fun hpos => ?_, fun hneg => ?_⟩
    · exact held_zero ▸ held_mono (div_nonneg hsign hpos.le)
    · exact held_zero ▸ held_mono (div_nonpos_of_nonneg_of_nonpos hsign hneg.le)
  · obtain ⟨s, hs⟩ := unpack_infinite hx hfinite
    have hv := unpacks_finite hy
    have hlimit := limit_pos
    have hexact : exact (x / y) =
        worth (pack (UnpackedFloat.div .binary64 x.toModel.unpack y.toModel.unpack)).unpack := rfl
    rw [exact, hs, worth_infinity] at hsign
    rw [hexact, hs]
    rw [exact] at hne ⊢
    generalize y.toModel.unpack = v at hv hne ⊢
    cases hv with
    | zero t => exact absurd rfl hne
    | @finite t n f hn ht hf =>
      have hpos := scaled_pos f hn
      have hdiv : UnpackedFloat.div .binary64 (.infinity s) (.finite t n f hn) = .infinity (s / t) := rfl
      rw [hdiv, unpack_pack_infinity, worth_finite, worth_infinity]
      cases s with
      | negative => dsimp only at hsign; linarith
      | positive =>
        cases t with
        | negative => exact ⟨fun h => by dsimp only at h; linarith, fun _ => by
            show -limit ≤ 0
            linarith⟩
        | positive => exact ⟨fun _ => hlimit.le, fun h => by dsimp only at h; linarith⟩

end Tableaux.Decimal
