import Tableaux.Proofs.BigM
import Tableaux.Proofs.Decimal.Meaning
import Tableaux.Proofs.Expression.Character
import Tableaux.Proofs.Text.Line

/-!
# Shown values are read back

A value that is only a real number or only a multiple of `M` is read back as the value that is shown.
An integer is shown as it is, so it is read back, but for the sign of zero.
-/
namespace Tableaux.BigM

open Decimal
open Text (isBlank tight_token trim trim_eq_self)

variable {r m x : Float} {text : List Char}

/-- The values are equal as numbers. Zero is equal to negative zero. -/
def Same (v w : BigM) : Prop := (v.real == w.real) = true ∧ (v.m == w.m) = true

instance (v w : BigM) : Decidable (Same v w) := inferInstanceAs (Decidable (_ ∧ _))

theorem figure_not_blank {c : Char} (h : IsFigure c) : isBlank c = false := by
  rcases h with hdigit | hother
  · by_contra hblank
    rw [Bool.not_eq_false] at hblank
    exact absurd hdigit (by rw [Expression.blank_not_digit hblank]; decide)
  · simp only [List.mem_cons, List.not_mem_nil, or_false] at hother
    rcases hother with rfl | rfl | rfl | rfl | rfl | rfl | rfl <;> decide

theorem trim_figures (h : ∀ c ∈ text, IsFigure c) : trim text = text :=
  trim_eq_self (fun c hc => figure_not_blank (h c (List.mem_of_mem_head? hc)))
    fun c hc => figure_not_blank (h c (List.mem_of_mem_getLast? hc))

theorem multiplier_number (hnone : text ≠ []) (hplus : text ≠ ['+']) (hminus : text ≠ ['-']) :
    multiplier text = (read text).getD 0 := by
  unfold multiplier
  split
  · exact absurd rfl hnone
  · exact absurd rfl hplus
  · exact absurd rfl hminus
  · rfl

theorem ofTerm_real (h : x.isFinite = true) : ofTerm (brief x) = ⟨briefValue x, 0⟩ := by
  unfold ofTerm
  dsimp only
  rw [trim_figures (figures_brief x), if_neg (no_letter x), brief_eq h, read_plain (briefValue_finite h),
    Option.getD_some]

theorem ofTerm_multiple (h : x.isFinite = true) : ofTerm (brief x ++ "M") = ⟨0, briefValue x⟩ := by
  have hfigures := figures_brief x
  have hread : read (brief x).toList = some (briefValue x) := by
    rw [brief_eq h, read_plain (briefValue_finite h)]
  have hsign := plain_ne_sign (briefValue_finite h)
  rw [← brief_eq h] at hsign
  have hlist : (brief x ++ "M").toList = (brief x).toList ++ ['M'] := String.toList_append
  have hblank : ∀ c ∈ (brief x).toList ++ ['M'], isBlank c = false := by
    intro c hc
    rcases List.mem_append.mp hc with hc | hc
    · exact figure_not_blank (hfigures c hc)
    · rw [List.mem_singleton.mp hc]
      decide
  have htrim : trim ((brief x).toList ++ ['M']) = (brief x).toList ++ ['M'] :=
    (tight_token (List.append_ne_nil_of_right_ne_nil _ (List.cons_ne_nil _ _)) hblank).trim
  have hmem : 'M' ∈ (brief x).toList ++ ['M'] := List.mem_append_right _ List.mem_cons_self
  have herase : ((brief x).toList ++ ['M']).erase 'M' = (brief x).toList := by
    rw [List.erase_append_right _ (no_letter x), List.erase_cons_head, List.append_nil]
  have hmultiplier : multiplier (brief x).toList = briefValue x := by
    rw [multiplier_number, hread, Option.getD_some]
    · exact fun hnil => hsign.1 (String.toList_injective hnil)
    · intro hplus
      rw [hplus] at hfigures
      exact absurd (hfigures '+' List.mem_cons_self) (by decide)
    · exact fun hminus => hsign.2 (String.toList_injective hminus)
  unfold ofTerm
  dsimp only
  rw [hlist, htrim, if_pos hmem, herase, trim_figures hfigures, hmultiplier]

theorem text_real (r : Float) : BigM.text ⟨r, 0⟩ = brief r := by
  have hreal : isReal ⟨r, 0⟩ = true := decide_eq_true (show (0 : Float).abs < negligible by decide)
  rw [BigM.text, if_pos hreal]

theorem briefValue_integer (h : isInteger x = true) : briefValue x = x + 0 := by
  rw [briefValue, if_pos h]
  rfl

theorem text_multiple (h : m.isFinite = true) (hwhole : ∃ k : ℤ, exact m = k)
    (hne : ¬ (m == 0) = true) : BigM.text ⟨0, m⟩ = coefficientText ⟨0, m⟩ ++ "M" := by
  have hnumber := isNaN_of_finite h
  have hlarge : ¬ isReal ⟨0, m⟩ = true := by
    obtain ⟨k, hk⟩ := hwhole
    rw [beq_iff hnumber (by decide), exact_zero, hk, Int.cast_eq_zero] at hne
    have hone : (1 : ℚ) ≤ |exact m| := by
      rw [hk]
      exact_mod_cast Int.one_le_abs hne
    have hsmall : exact negligible < 1 := by
      rw [← exact_one]
      exact (lt_iff (by decide) (by decide)).mp (by decide)
    rw [isReal, decide_eq_true_iff, lt_iff (isNaN_abs hnumber) (by decide), exact_abs hnumber]
    exact (hsmall.trans_le hone).not_gt
  have hnothing : realText ⟨0, m⟩ = "" := if_neg (show ¬ (0 : Float).abs > negligible by decide)
  rw [text_eq hlarge, hnothing, String.append_empty]

/-- Integers that are shown as real numbers and as multiples of `M` are read back. -/
theorem integers_read_back (hr : r.isFinite = true) (hm : m.isFinite = true)
    (hwhole : ∃ k : ℤ, exact r = k) (hwhole' : ∃ k : ℤ, exact m = k) (hne : ¬ (m == 0) = true) :
    Same (ofTerm (BigM.text ⟨r, 0⟩)) ⟨r, 0⟩ ∧ Same (ofTerm (BigM.text ⟨0, m⟩)) ⟨0, m⟩ := by
  have hzero : ((0 : Float) == 0) = true := by decide
  constructor
  · rw [text_real, ofTerm_real hr, briefValue_integer ((isInteger_iff hr).mpr hwhole)]
    exact ⟨(add_zero_beq hr).1, hzero⟩
  · rw [text_multiple hm hwhole' hne]
    rcases coefficient_cases (v := ⟨0, m⟩) hm with ⟨hone, htext⟩ | ⟨hminus, htext⟩ | ⟨-, -, htext⟩
    · obtain rfl : m = 1 := hone
      rw [htext]
      decide
    · obtain rfl : m = -1 := hminus
      rw [htext]
      decide
    · rw [htext, ofTerm_multiple hm, briefValue_integer ((isInteger_iff hm).mpr hwhole')]
      exact ⟨hzero, (add_zero_beq hm).1⟩

theorem integers_read_back_large :
    (-0 : Float).isFinite = true ∧ (1e300 : Float).isFinite = true ∧
      Same (ofTerm (BigM.text ⟨-0, 0⟩)) ⟨-0, 0⟩ ∧ Same (ofTerm (BigM.text ⟨0, 1e300⟩)) ⟨0, 1e300⟩ := by
  have hzero : (-0 : Float).isFinite = true := by decide
  have hlarge : (1e300 : Float).isFinite = true := by decide +kernel
  exact ⟨hzero, hlarge, integers_read_back hzero hlarge ((isInteger_iff hzero).mp (by decide))
    ((isInteger_iff hlarge).mp (by decide +kernel)) (by decide +kernel)⟩

end Tableaux.BigM
