import Tableaux.BigM
import Tableaux.Proofs.Decimal.Threshold

/-!
# How values with an `M` part are shown

Whether a part is shown is decided on the value, and how it is shown on the value with four decimals.
Between the two lie small multiples of `M` that are shown as zero, multiples around one that are shown
as one, and small real parts that are shown as zero.
-/
namespace Tableaux.BigM

open Decimal

variable {v : BigM}

def front (v : BigM) : String := String.ofList (v.text.toList.takeWhile (· != 'M'))

def behind (v : BigM) : String := String.ofList ((v.text.toList.dropWhile (· != 'M')).drop 1)

/-- The shown text in normal form: a multiple is neither shown as zero nor as one, and the real part
behind it is not shown as zero. -/
def InNormalForm (v : BigM) : Prop :=
  'M' ∈ v.text.toList → front v ∉ ["0", "-0", "1", "-1"] ∧ behind v ∉ [" + 0", " - 0"]

instance (v : BigM) : Decidable (InNormalForm v) := inferInstanceAs (Decidable (_ → _))

/-- Values between the thresholds are not shown in normal form. -/
theorem noise_not_in_normal_form :
    (0.99999 : Float).isFinite = true ∧ ¬ InNormalForm ⟨0, 0.99999⟩ ∧
      (1e-5 : Float).isFinite = true ∧ ¬ InNormalForm ⟨1e-5, 1e-5⟩ := by
  decide +kernel

def realText (v : BigM) : String :=
  if v.real.abs > negligible then (if v.real > 0 then " + " else " - ") ++ brief v.real.abs else ""

def coefficientText (v : BigM) : String :=
  if v.m == 1 then "" else if v.m == -1 then "-" else brief v.m

theorem text_eq (h : ¬ v.isReal = true) : v.text = v.coefficientText ++ "M" ++ v.realText := by
  have hmultiple : v.multipleText = v.coefficientText ++ "M" := by
    rw [multipleText, coefficientText]
    split
    · rfl
    · split <;> rfl
  rw [text, if_neg h, hmultiple, realText]
  split
  · rw [String.append_assoc]
  · rw [String.append_empty]

theorem no_letter (x : Float) : 'M' ∉ (brief x).toList := fun h =>
  absurd (figures_brief x 'M' h) (by decide)

theorem no_letter_coefficient (v : BigM) : 'M' ∉ v.coefficientText.toList := by
  rw [coefficientText]
  split
  · decide
  · split
    · decide
    · exact no_letter v.m

theorem letter_iff (v : BigM) : 'M' ∈ v.text.toList ↔ ¬ v.isReal = true := by
  refine ⟨fun hmem hreal => ?_, fun h => ?_⟩
  · rw [text, if_pos hreal] at hmem
    exact no_letter v.real hmem
  · rw [text_eq h, String.toList_append, String.toList_append]
    exact List.mem_append_left _ (List.mem_append_right _ (by decide))

theorem parts_eq (h : ¬ v.isReal = true) :
    front v = v.coefficientText ∧ behind v = v.realText := by
  have htext : v.text.toList = v.coefficientText.toList ++ 'M' :: v.realText.toList := by
    rw [text_eq h, String.toList_append, String.toList_append, List.append_assoc]
    rfl
  have hfront : ∀ c ∈ v.coefficientText.toList, (c != 'M') = true := by
    intro c hc
    rw [bne_iff_ne]
    rintro rfl
    exact no_letter_coefficient v hc
  rw [front, behind, htext, List.takeWhile_append_of_pos hfront, List.dropWhile_append_of_pos hfront]
  constructor
  · rw [List.takeWhile_cons_of_neg (by decide), List.append_nil, String.ofList_toList]
  · rw [List.dropWhile_cons_of_neg (by decide), List.drop_one, List.tail_cons, String.ofList_toList]

/-- What the text in front of an `M` says about the multiple. -/
structure MultipleShown (v : BigM) : Prop where
  bare : front v = "" ↔ v.m = 1
  negated : front v = "-" ↔ v.m = -1
  number : v.m ≠ 1 → v.m ≠ -1 → front v = brief v.m
  zero : front v = "0" ↔ v.m.abs ≤ 5e-5
  unsigned : front v ≠ "-0"
  one : front v = "1" ↔ v.m ≠ 1 ∧ 0.99995 ≤ v.m ∧ v.m < 1.00005
  minus : front v = "-1" ↔ v.m ≠ -1 ∧ 0.99995 ≤ -v.m ∧ -v.m < 1.00005

/-- What the text behind an `M` says about the real part. -/
structure RealShown (v : BigM) : Prop where
  nothing : behind v = "" ↔ v.real.abs ≤ negligible
  something : negligible < v.real.abs →
    behind v = (if 0 < v.real then " + " else " - ") ++ brief v.real.abs
  zero : brief v.real.abs = "0" ↔ v.real.abs ≤ 5e-5
  unsigned : brief v.real.abs ≠ "-0"

theorem eq_one_iff {x : Float} (h : x.isFinite = true) :
    ((x == 1) = true ↔ x = 1) ∧ ((x == -1) = true ↔ x = -1) := by
  have hnumber := isNaN_of_finite h
  have hone : exact 1 ≠ 0 := by
    rw [exact_one]
    exact one_ne_zero
  have hminus : exact (-1) ≠ 0 := by
    rw [exact_neg (by decide)]
    exact neg_ne_zero.mpr hone
  constructor
  · refine ⟨fun heq => ?_, fun heq => by rw [heq]; decide⟩
    have hexact := (beq_iff hnumber (by decide)).mp heq
    exact exact_inj h (by decide) hexact (hexact ▸ hone)
  · refine ⟨fun heq => ?_, fun heq => by rw [heq]; decide⟩
    have hexact := (beq_iff hnumber (by decide)).mp heq
    exact exact_inj h (by decide) hexact (hexact ▸ hminus)

theorem coefficient_cases (h : v.m.isFinite = true) :
    v.m = 1 ∧ v.coefficientText = "" ∨ v.m = -1 ∧ v.coefficientText = "-" ∨
      v.m ≠ 1 ∧ v.m ≠ -1 ∧ v.coefficientText = brief v.m := by
  obtain ⟨hone, hminus⟩ := eq_one_iff h
  rw [coefficientText]
  split
  · rename_i heq
    exact Or.inl ⟨hone.mp heq, rfl⟩
  · rename_i hne
    split
    · rename_i heq
      exact Or.inr (Or.inl ⟨hminus.mp heq, rfl⟩)
    · rename_i hne'
      exact Or.inr (Or.inr ⟨mt hone.mpr hne, mt hminus.mpr hne', rfl⟩)

theorem realText_cases (h : v.real.isFinite = true) :
    v.real.abs ≤ negligible ∧ v.realText = "" ∨
      negligible < v.real.abs ∧
        v.realText = (if 0 < v.real then " + " else " - ") ++ brief v.real.abs := by
  have habs := isNaN_abs (isNaN_of_finite h)
  rw [realText]
  split
  · rename_i hgt
    exact Or.inr ⟨hgt, rfl⟩
  · rename_i hle
    refine Or.inl ⟨?_, rfl⟩
    rw [le_iff habs (by decide)]
    rw [gt_iff_lt, lt_iff (by decide) habs] at hle
    exact not_lt.mp hle

theorem multiple_shown (h : v.m.isFinite = true) (hfront : front v = v.coefficientText) :
    MultipleShown v := by
  rcases coefficient_cases h with ⟨hm, htext⟩ | ⟨hm, htext⟩ | ⟨hone, hminus, htext⟩ <;>
    rw [htext] at hfront
  · refine ⟨?_, ?_, fun hne => absurd hm hne, ?_, ?_, ?_, ?_⟩ <;> simp only [hfront, hm] <;> decide
  · refine ⟨?_, ?_, fun _ hne => absurd hm hne, ?_, ?_, ?_, ?_⟩ <;> simp only [hfront, hm] <;> decide
  · have hsign := plain_ne_sign (briefValue_finite h)
    rw [← brief_eq h, ← hfront] at hsign
    obtain ⟨hzero, hunsigned⟩ := brief_zero_iff h
    have hplus := brief_one_iff h
    have hneg := brief_neg_one_iff h
    rw [← hfront] at hzero hunsigned hplus hneg
    exact ⟨iff_of_false hsign.1 hone, iff_of_false hsign.2 hminus, fun _ _ => hfront, hzero, hunsigned,
      hplus.trans (and_iff_right hone).symm, hneg.trans (and_iff_right hminus).symm⟩

theorem real_shown (h : v.real.isFinite = true) (hbehind : behind v = v.realText) : RealShown v := by
  have hnumber := isNaN_of_finite h
  have habs := isNaN_abs hnumber
  obtain ⟨hzero, hunsigned⟩ := brief_zero_iff (isFinite_abs h)
  rw [le_iff (isNaN_abs habs) (by decide), exact_abs habs, exact_abs hnumber, abs_abs,
    ← exact_abs hnumber, ← le_iff habs (by decide)] at hzero
  have horder : v.real.abs ≤ negligible ↔ ¬ negligible < v.real.abs := by
    rw [le_iff habs (by decide), lt_iff (by decide) habs, not_lt]
  rcases realText_cases h with ⟨hle, htext⟩ | ⟨hlt, htext⟩ <;> rw [htext] at hbehind
  · exact ⟨iff_of_true hbehind hle, fun hlt => absurd hlt (horder.mp hle), hzero, hunsigned⟩
  · refine ⟨iff_of_false (fun hnil => ?_) (fun hle => horder.mp hle hlt), fun _ => hbehind, hzero,
      hunsigned⟩
    rw [hnil] at hbehind
    have hlist := congrArg String.toList hbehind
    rw [String.toList_append, eq_comm, String.toList_empty, List.append_eq_nil_iff] at hlist
    split at hlist <;> exact absurd hlist.1 (by decide)

/-- The values that are written, but with four decimals are shown as what is not written. -/
inductive BetweenThresholds (v : BigM) : Prop where
  | zero (hhigh : v.m.abs ≤ 5e-5)
  | one (hne : v.m ≠ 1) (hlow : 0.99995 ≤ v.m) (hhigh : v.m < 1.00005)
  | minus (hne : v.m ≠ -1) (hlow : 0.99995 ≤ -v.m) (hhigh : -v.m < 1.00005)
  | real (hlow : negligible < v.real.abs) (hhigh : v.real.abs ≤ 5e-5)

theorem amount_eq_zero {positive : Prop} [Decidable positive] {amount : String}
    (h : (if positive then " + " else " - ") ++ amount ∈ [" + 0", " - 0"]) : amount = "0" := by
  rw [List.mem_pair] at h
  have hlist : amount.toList = ['0'] := by
    split at h <;> rcases h with h | h <;>
      simpa [String.toList_append] using congrArg String.toList h
  rw [← String.ofList_toList (s := amount), hlist]

theorem normal_form_iff (h : v.real.isFinite = true) (hmultiple : MultipleShown v) (hreal : RealShown v) :
    front v ∉ ["0", "-0", "1", "-1"] ∧ behind v ∉ [" + 0", " - 0"] ↔ ¬ BetweenThresholds v := by
  constructor
  · rintro ⟨hfront, hbehind⟩ hbetween
    cases hbetween with
    | zero hhigh => exact hfront (by rw [hmultiple.zero.mpr hhigh]; decide)
    | one hne hlow hhigh => exact hfront (by rw [hmultiple.one.mpr ⟨hne, hlow, hhigh⟩]; decide)
    | minus hne hlow hhigh => exact hfront (by rw [hmultiple.minus.mpr ⟨hne, hlow, hhigh⟩]; decide)
    | real hlow hhigh =>
      rw [hreal.something hlow, hreal.zero.mpr hhigh] at hbehind
      split at hbehind <;> exact absurd hbehind (by decide)
  · intro houtside
    constructor
    · intro hmem
      simp only [List.mem_cons, List.not_mem_nil, or_false] at hmem
      rcases hmem with h | h | h | h
      · exact houtside (.zero (hmultiple.zero.mp h))
      · exact hmultiple.unsigned h
      · obtain ⟨hne, hlow, hhigh⟩ := hmultiple.one.mp h
        exact houtside (.one hne hlow hhigh)
      · obtain ⟨hne, hlow, hhigh⟩ := hmultiple.minus.mp h
        exact houtside (.minus hne hlow hhigh)
    · intro hmem
      rcases realText_cases h with ⟨hle, -⟩ | ⟨hlarge, -⟩
      · rw [hreal.nothing.mpr hle] at hmem
        exact absurd hmem (by decide)
      · rw [hreal.something hlarge] at hmem
        exact houtside (.real hlarge (hreal.zero.mp (amount_eq_zero hmem)))

/-- Which texts stand around an `M`. They are in normal form except for values between the thresholds. -/
theorem shown_around_letter (v : BigM) (hreal : v.real.isFinite = true) (hm : v.m.isFinite = true) :
    ('M' ∈ v.text.toList ↔ negligible ≤ v.m.abs) ∧
      ('M' ∈ v.text.toList → MultipleShown v ∧ RealShown v) ∧
      (InNormalForm v ↔ (negligible ≤ v.m.abs → ¬ BetweenThresholds v)) := by
  have habs := isNaN_abs (isNaN_of_finite hm)
  have hletter : 'M' ∈ v.text.toList ↔ negligible ≤ v.m.abs := by
    rw [letter_iff, isReal, decide_eq_true_iff, lt_iff habs (by decide), le_iff (by decide) habs, not_lt]
  have hshown : 'M' ∈ v.text.toList → MultipleShown v ∧ RealShown v := by
    intro hmem
    obtain ⟨hfront, hbehind⟩ := parts_eq ((letter_iff v).mp hmem)
    exact ⟨multiple_shown hm hfront, real_shown hreal hbehind⟩
  refine ⟨hletter, hshown, ?_⟩
  rw [InNormalForm, ← hletter]
  refine forall_congr' fun hmem => ?_
  obtain ⟨hmultiple, hamount⟩ := hshown hmem
  exact normal_form_iff hreal hmultiple hamount

theorem shown_around_letter_noise :
    (1e-5 : Float).isFinite = true ∧ (0.99999 : Float).isFinite = true ∧
      MultipleShown ⟨1e-5, 0.99999⟩ ∧ RealShown ⟨1e-5, 0.99999⟩ := by
  have hlarge : negligible ≤ (0.99999 : Float).abs := by decide
  have hshown := shown_around_letter ⟨1e-5, 0.99999⟩ (by decide) (by decide)
  exact ⟨by decide, by decide, hshown.2.1 (hshown.1.mpr hlarge)⟩

end Tableaux.BigM
