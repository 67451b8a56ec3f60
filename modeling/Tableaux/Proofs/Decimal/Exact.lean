import Tableaux.Proofs.Decimal.Arithmetic
import Tableaux.Proofs.Decimal.Number

/-!
# The exact value of a float

A finite float stands for a rational number, and an infinite one is put where the floats end. Then
comparing floats is comparing numbers, and what is packed for a rounded number is that number, held
within the floats.
-/
namespace Tableaux.Decimal

open Float.Model
open Float.Model.UnpackedFloat (Sign infinity notANumber zero)

variable {m m₁ m₂ : ℕ} {e e₁ e₂ : ℤ} {s : Sign} {p q : ℚ} {x y : Float} {u v w : UnpackedFloat}

/-- All finite floats are smaller than this, and the next number of their kind is this. -/
def limit : ℚ := 2 ^ (1024 : ℤ)

def signum : Sign → ℚ
  | .positive => 1
  | .negative => -1

def worth : UnpackedFloat → ℚ
  | .infinity s => signum s * limit
  | .notANumber => 0
  | .zero _ => 0
  | .finite s m e _ => signum s * scaled m e

/-- The number that a float stands for. NaN stands for none, and zero is taken for it. -/
def exact (x : Float) : ℚ := worth x.toModel.unpack

/-- A number rounded and held within the floats. -/
def held (q : ℚ) : ℚ := max (-limit) (min limit (rounded q))

theorem limit_pos : 0 < limit := two_zpow_pos 1024

theorem scaled_lt_limit (hr : Regular m e) (h : e ≤ 971) : scaled m e < limit := by
  have hm : (m : ℚ) < 2 ^ 53 := by exact_mod_cast hr.bounded
  calc scaled m e < 2 ^ 53 * 2 ^ e := mul_lt_mul_of_pos_right hm (two_zpow_pos e)
    _ = 2 ^ (e + 53) := (two_zpow_add e 53).symm
    _ ≤ limit := zpow_le_zpow_right₀ one_le_two (by omega)

theorem limit_le_scaled (hr : Regular m e) (h : 971 < e) : limit ≤ scaled m e := by
  have hm : (2 : ℚ) ^ 52 ≤ m := by
    exact_mod_cast hr.full.resolve_right (by omega)
  calc limit ≤ 2 ^ (e + 52) := zpow_le_zpow_right₀ one_le_two (by omega)
    _ = 2 ^ 52 * 2 ^ e := two_zpow_add e 52
    _ ≤ scaled m e := mul_le_mul_of_nonneg_right hm (two_zpow_pos e).le

theorem held_mono (h : p ≤ q) : held p ≤ held q :=
  max_le_max_left _ (min_le_min_left _ (rounded_mono h))

theorem held_neg (q : ℚ) : held (-q) = -held q := by
  have hpos := limit_pos
  rw [held, held, rounded_neg]
  rcases le_total (rounded q) limit with hhigh | hhigh
  · rcases le_total (-limit) (rounded q) with hlow | hlow
    · rw [min_eq_right hhigh, max_eq_right hlow, min_eq_right (by linarith), max_eq_right (by linarith)]
    · rw [min_eq_right hhigh, max_eq_left hlow, min_eq_left (by linarith), max_eq_right (by linarith),
        neg_neg]
  · have hlow : -limit ≤ limit := by linarith
    have hneg : -rounded q ≤ -limit := by linarith
    rw [min_eq_left hhigh, max_eq_right hlow, min_eq_right (hneg.trans hlow), max_eq_left hneg]

theorem held_signum (s : Sign) (q : ℚ) : held (signum s * q) = signum s * held q := by
  cases s with
  | positive => rw [signum, one_mul, one_mul]
  | negative => rw [signum, neg_one_mul, neg_one_mul, held_neg]

theorem held_of_lt (h : rounded q < limit) (hq : 0 ≤ rounded q) : held q = rounded q := by
  have hpos := limit_pos
  rw [held, min_eq_right h.le, max_eq_right (by linarith)]

theorem held_of_le (h : limit ≤ rounded q) : held q = limit := by
  have hpos := limit_pos
  rw [held, min_eq_left h, max_eq_right (by linarith)]

theorem held_zero : held 0 = 0 := by
  rw [held_of_lt (by rw [rounded_zero]; exact limit_pos) (by rw [rounded_zero]), rounded_zero]

theorem worth_zero (s : Sign) : worth (.zero s) = 0 := rfl

theorem worth_pack (h : Rounds s q w) (hq : 0 < q) :
    worth (pack w).unpack = held (signum s * q) := by
  rw [held_signum]
  cases h with
  | zero h =>
    rw [unpack_pack_zero, held_of_lt (h ▸ limit_pos) h.ge, h, mul_zero]
    rfl
  | @finite m e hm hr h =>
    have hrounded : rounded q = scaled m e := h
    rcases le_or_gt e 971 with he | he
    · rw [unpack_pack_finite s hm hr he, held_of_lt (hrounded ▸ scaled_lt_limit hr he)
        (rounded_nonneg hq.le), hrounded]
      rfl
    · rw [unpack_pack_overflow s hm hr he, held_of_le (hrounded ▸ limit_le_scaled hr he)]
      rfl

theorem worth_normalize (k e : ℤ) (s : Sign) :
    worth (pack (UnpackedFloat.normalize .binary64 k e s)).unpack = held (k * 2 ^ e) := by
  unfold UnpackedFloat.normalize
  rcases lt_trichotomy k 0 with hk | rfl | hk
  · have hpos : 0 < (-k).toNat := by omega
    have hcast : (((-k).toNat : ℕ) : ℚ) = -k := by
      rw [← Int.cast_natCast, Int.toNat_of_nonneg (by omega), Int.cast_neg]
    rw [compare_lt_iff_lt.mpr hk]
    dsimp only
    rw [worth_pack (rounds_round hpos) (scaled_pos e hpos), signum, scaled, hcast]
    congr 1
    ring
  · rw [compare_eq_iff_eq.mpr rfl]
    dsimp only
    rw [unpack_pack_zero, worth_zero, Int.cast_zero, zero_mul, held_zero]
  · have hpos : 0 < k.toNat := by omega
    have hcast : ((k.toNat : ℕ) : ℚ) = k := by
      rw [← Int.cast_natCast, Int.toNat_of_nonneg hk.le]
    rw [compare_gt_iff_gt.mpr hk]
    dsimp only
    rw [worth_pack (rounds_round hpos) (scaled_pos e hpos), signum, one_mul, scaled, hcast]

inductive Unpacks : UnpackedFloat → Prop where
  | infinity (s : Sign) : Unpacks (.infinity s)
  | zero (s : Sign) : Unpacks (.zero s)
  | finite (s : Sign) {m : ℕ} {e : ℤ} (hm : 0 < m) (hr : Regular m e) (he : e ≤ 971) :
      Unpacks (.finite s m e hm)

theorem unpacks (h : x.isNaN = false) : Unpacks x.toModel.unpack := by
  have hnumber : x.toModel.unpack.isNaN = false := h
  cases hu : x.toModel.unpack with
  | notANumber => rw [hu] at hnumber; cases hnumber
  | infinity s => exact .infinity s
  | zero s => exact .zero s
  | finite s m e hm =>
    obtain ⟨hr, he⟩ := regular_unpack hu
    exact .finite s hm hr he

inductive UnpacksFinite : UnpackedFloat → Prop where
  | zero (s : Sign) : UnpacksFinite (.zero s)
  | finite (s : Sign) {m : ℕ} {e : ℤ} (hm : 0 < m) (hr : Regular m e) (he : e ≤ 971) :
      UnpacksFinite (.finite s m e hm)

theorem unpacks_finite (h : x.isFinite = true) : UnpacksFinite x.toModel.unpack := by
  have hfinite : x.toModel.unpack.isFinite = true := h
  have hu := unpacks (isNaN_of_finite h)
  generalize x.toModel.unpack = u at hfinite hu ⊢
  cases hu with
  | infinity s => cases hfinite
  | zero s => exact .zero s
  | finite s hm hr he => exact .finite s hm hr he

theorem scaled_lt (hr₁ : Regular m₁ e₁) (hr₂ : Regular m₂ e₂) (h : e₁ < e₂) :
    scaled m₁ e₁ < scaled m₂ e₂ := by
  have hbound : (m₁ : ℚ) < 2 ^ 53 := by exact_mod_cast hr₁.bounded
  have hlow := hr₁.low
  have hfull : (2 : ℚ) ^ 52 ≤ m₂ := by exact_mod_cast hr₂.full.resolve_right (by omega)
  calc scaled m₁ e₁ < 2 ^ 53 * 2 ^ e₁ := mul_lt_mul_of_pos_right hbound (two_zpow_pos e₁)
    _ = 2 ^ (e₁ + 53) := (two_zpow_add e₁ 53).symm
    _ ≤ 2 ^ (e₂ + 52) := zpow_le_zpow_right₀ one_le_two (by omega)
    _ = 2 ^ 52 * 2 ^ e₂ := two_zpow_add e₂ 52
    _ ≤ scaled m₂ e₂ := mul_le_mul_of_nonneg_right hfull (two_zpow_pos e₂).le

theorem compare_scaled (hr₁ : Regular m₁ e₁) (hr₂ : Regular m₂ e₂) :
    (compare e₁ e₂).then (compare m₁ m₂) = compare (scaled m₁ e₁) (scaled m₂ e₂) := by
  rcases lt_trichotomy e₁ e₂ with h | rfl | h
  · rw [compare_lt_iff_lt.mpr h, compare_lt_iff_lt.mpr (scaled_lt hr₁ hr₂ h)]
    rfl
  · have hpos := two_zpow_pos e₁
    rw [compare_eq_iff_eq.mpr (rfl : e₁ = e₁)]
    rcases lt_trichotomy m₁ m₂ with hm | rfl | hm
    · have hless : scaled m₁ e₁ < scaled m₂ e₁ :=
        mul_lt_mul_of_pos_right (by exact_mod_cast hm) hpos
      rw [compare_lt_iff_lt.mpr hm, compare_lt_iff_lt.mpr hless]
      rfl
    · rw [compare_eq_iff_eq.mpr (rfl : m₁ = m₁), compare_eq_iff_eq.mpr rfl]
      rfl
    · have hmore : scaled m₂ e₁ < scaled m₁ e₁ :=
        mul_lt_mul_of_pos_right (by exact_mod_cast hm) hpos
      rw [compare_gt_iff_gt.mpr hm, compare_gt_iff_gt.mpr hmore]
      rfl
  · rw [compare_gt_iff_gt.mpr h, compare_gt_iff_gt.mpr (scaled_lt hr₂ hr₁ h)]
    rfl

theorem compare_neg_neg (p q : ℚ) : compare (-p) (-q) = (compare p q).swap := by
  rcases lt_trichotomy p q with h | rfl | h
  · rw [compare_lt_iff_lt.mpr h, compare_gt_iff_gt.mpr (neg_lt_neg h)]
    rfl
  · rw [compare_eq_iff_eq.mpr rfl, compare_eq_iff_eq.mpr rfl]
    rfl
  · rw [compare_gt_iff_gt.mpr h, compare_lt_iff_lt.mpr (neg_lt_neg h)]
    rfl

theorem worth_finite (s : Sign) (hm : 0 < m) :
    worth (.finite s m e hm) = match s with | .positive => scaled m e | .negative => -scaled m e := by
  cases s with
  | positive => exact one_mul _
  | negative => exact neg_one_mul _

theorem worth_infinity (s : Sign) :
    worth (.infinity s) = match s with | .positive => limit | .negative => -limit := by
  cases s with
  | positive => exact one_mul _
  | negative => exact neg_one_mul _

theorem some_lt (h : p < q) : some Ordering.lt = some (compare p q) := by
  rw [compare_lt_iff_lt.mpr h]

theorem some_gt (h : q < p) : some Ordering.gt = some (compare p q) := by
  rw [compare_gt_iff_gt.mpr h]

theorem some_eq (p : ℚ) : some Ordering.eq = some (compare p p) := by
  rw [compare_eq_iff_eq.mpr rfl]

/-- Unpacked floats are compared as the numbers that they stand for. -/
theorem compare_worth (hu : Unpacks u) (hv : Unpacks v) :
    u.compare v = some (compare (worth u) (worth v)) := by
  have hlimit := limit_pos
  cases hu with
  | infinity s =>
    rw [worth_infinity]
    cases hv with
    | infinity t =>
      rw [worth_infinity]
      cases s <;> cases t
      · exact some_eq _
      · exact some_lt (by linarith)
      · exact some_gt (by linarith)
      · exact some_eq _
    | zero t =>
      rw [worth_zero]
      cases s
      · exact some_lt (by linarith)
      · exact some_gt (by linarith)
    | @finite t n f hn ht hf =>
      have hpos := scaled_pos f hn
      have hlt := scaled_lt_limit ht hf
      rw [worth_finite]
      cases s <;> cases t
      · exact some_lt (by linarith)
      · exact some_lt (by linarith)
      · exact some_gt (by linarith)
      · exact some_gt (by linarith)
  | zero s =>
    rw [worth_zero]
    cases hv with
    | infinity t =>
      rw [worth_infinity]
      cases t
      · exact some_gt (by linarith)
      · exact some_lt (by linarith)
    | zero t => exact some_eq _
    | @finite t n f hn ht hf =>
      have hpos := scaled_pos f hn
      rw [worth_finite]
      cases t
      · exact some_gt (by linarith)
      · exact some_lt (by linarith)
  | @finite s m e hm hr he =>
    have hpos := scaled_pos e hm
    have hlt := scaled_lt_limit hr he
    rw [worth_finite]
    cases hv with
    | infinity t =>
      rw [worth_infinity]
      cases s <;> cases t
      · exact some_gt (by linarith)
      · exact some_lt (by linarith)
      · exact some_gt (by linarith)
      · exact some_lt (by linarith)
    | zero t =>
      rw [worth_zero]
      cases s
      · exact some_lt (by linarith)
      · exact some_gt (by linarith)
    | @finite t n f hn ht hf =>
      have hpos' := scaled_pos f hn
      rw [worth_finite]
      cases s <;> cases t
      · rw [compare_neg_neg, ← compare_scaled hr ht]
        rfl
      · exact some_lt (by linarith)
      · exact some_gt (by linarith)
      · rw [← compare_scaled hr ht]
        rfl

theorem lt_iff (hx : x.isNaN = false) (hy : y.isNaN = false) : x < y ↔ exact x < exact y := by
  have hcompare : x < y ↔ (x.toModel.unpack.compare y.toModel.unpack == some .lt) = true :=
    decide_eq_true_iff
  rw [hcompare, compare_worth (unpacks hx) (unpacks hy), beq_iff_eq, Option.some_inj,
    compare_lt_iff_lt, exact, exact]

theorem beq_iff (hx : x.isNaN = false) (hy : y.isNaN = false) :
    (x == y) = true ↔ exact x = exact y := by
  have hcompare : (x == y) = (x.toModel.unpack.compare y.toModel.unpack == some .eq) := rfl
  rw [hcompare, compare_worth (unpacks hx) (unpacks hy), beq_iff_eq, Option.some_inj,
    compare_eq_iff_eq, exact, exact]

theorem le_iff (hx : x.isNaN = false) (hy : y.isNaN = false) : x ≤ y ↔ exact x ≤ exact y := by
  have hcompare : x ≤ y ↔
      (x.toModel.unpack.compare y.toModel.unpack).any (·.isLE) = true := decide_eq_true_iff
  rw [hcompare, compare_worth (unpacks hx) (unpacks hy), Option.any_some, Ordering.isLE_iff_ne_gt,
    compare_gt_iff_gt, not_lt, exact, exact]

theorem isNaN_of_le (h : x ≤ y) : x.isNaN = false ∧ y.isNaN = false := by
  have hcompare : (x.toModel.unpack.compare y.toModel.unpack).any (·.isLE) = true :=
    of_decide_eq_true h
  have hnumber : x.isNaN = x.toModel.unpack.isNaN := rfl
  have hnumber' : y.isNaN = y.toModel.unpack.isNaN := rfl
  rw [hnumber, hnumber']
  generalize x.toModel.unpack = u at hcompare ⊢
  generalize y.toModel.unpack = v at hcompare ⊢
  cases u <;> cases v <;> first | exact ⟨rfl, rfl⟩ | cases hcompare

end Tableaux.Decimal
