import Mathlib.Data.List.TakeWhile
import Tableaux.Proofs.Expression.Character

/-!
# Where variables stand

A variable stands at each `x` that is directly followed by a digit. Cut at its variables a text
consists of gaps, in which no variable stands, and of variables with all their digits. So what
holds of gaps, and of a text if it holds of what follows its first variable, holds of all texts.
-/
namespace Tableaux.Expression

open Decimal (isDigit)

def VariableAt (text : List Char) (i : Nat) : Prop :=
  text[i]? = some 'x' ∧ ∃ c, text[i + 1]? = some c ∧ isDigit c = true

instance (text : List Char) (i : Nat) : Decidable (VariableAt text i) :=
  decidable_of_iff (text[i]? = some 'x' ∧ (text[i + 1]?).any isDigit = true)
    (by simp [VariableAt, Option.any_eq_true])

theorem variableAt_append (front text : List Char) (i : Nat) :
    VariableAt (front ++ text) (front.length + i) ↔ VariableAt text i := by
  unfold VariableAt
  rw [List.getElem?_append_right (by omega), List.getElem?_append_right (by omega)]
  simp [Nat.add_assoc]

theorem variableAt_succ (c : Char) (text : List Char) (i : Nat) :
    VariableAt (c :: text) (i + 1) ↔ VariableAt text i := by
  simp [VariableAt]

theorem variableAt_zero (c : Char) (rest : List Char) :
    VariableAt (c :: rest) 0 ↔ c = 'x' ∧ rest.takeWhile isDigit ≠ [] := by
  cases rest with
  | nil => simp [VariableAt]
  | cons d rest => by_cases hd : isDigit d = true <;> simp [VariableAt, hd]

theorem variableAt_extend {text after : List Char} (h : ∀ c ∈ after.head?, isDigit c = false)
    {i : Nat} (hi : i < text.length) : VariableAt (text ++ after) i ↔ VariableAt text i := by
  unfold VariableAt
  rw [List.getElem?_append_left hi]
  apply and_congr_right
  intro _
  by_cases hlast : i + 1 < text.length
  · rw [List.getElem?_append_left hlast]
  · have hend : i + 1 - text.length = 0 := by omega
    have hnone : text[i + 1]? = none := List.getElem?_eq_none (by omega)
    rw [List.getElem?_append_right (by omega), hend, ← List.head?_eq_getElem?, hnone]
    constructor
    · rintro ⟨c, hc, hd⟩
      rw [h c hc] at hd
      cases hd
    · rintro ⟨c, hc, -⟩
      cases hc

theorem not_variableAt_digits {digits : List Char} (h : ∀ c ∈ digits, isDigit c = true) (i : Nat) :
    ¬ VariableAt digits i := by
  rintro ⟨hx, -⟩
  exact digit_ne_x (h 'x' (List.mem_of_getElem? hx)) rfl

def Gap (text : List Char) : Prop := ∀ i, ¬ VariableAt text i

theorem gap_nil : Gap [] := fun i h => by cases h.1

theorem gap_of_not_mem {text : List Char} (h : 'x' ∉ text) : Gap text :=
  fun _ hi => h (List.mem_of_getElem? hi.1)

structure Numbered (digits after : List Char) : Prop where
  filled : digits ≠ []
  digit : ∀ c ∈ digits, isDigit c = true
  ends : ∀ c ∈ after.head?, isDigit c = false

theorem numbered_takeWhile {text : List Char} (h : text.takeWhile isDigit ≠ []) :
    Numbered (text.takeWhile isDigit) (text.dropWhile isDigit) where
  filled := h
  digit c hc := List.mem_takeWhile_imp hc
  ends c hc := by
    have hhead := List.head?_dropWhile_not isDigit text
    rw [hc] at hhead
    exact hhead

theorem VariableAt.numbered {text : List Char} {i : Nat} (h : VariableAt text i) :
    ∃ digits rest, text.drop i = 'x' :: digits ++ rest ∧ Numbered digits rest := by
  have hi : i < text.length := (List.getElem?_eq_some_iff.mp h.1).1
  have hdrop := variableAt_append (text.take i) (text.drop i) 0
  rw [List.take_append_drop, List.length_take_of_le hi.le, Nat.add_zero,
    List.drop_eq_getElem_cons hi, variableAt_zero] at hdrop
  obtain ⟨hx, hdigits⟩ := hdrop.mp h
  refine ⟨_, _, ?_, numbered_takeWhile hdigits⟩
  rw [List.cons_append, List.takeWhile_append_dropWhile, List.drop_eq_getElem_cons hi, hx]

/-- A text is a gap, or a variable follows its first gap. -/
theorem gap_or_variable (text : List Char) :
    Gap text ∨ ∃ gap digits rest, text = gap ++ 'x' :: digits ++ rest ∧ Gap gap ∧
      Numbered digits rest := by
  induction text with
  | nil => exact Or.inl gap_nil
  | cons c text ih =>
    by_cases hfirst : VariableAt (c :: text) 0
    · obtain ⟨digits, rest, hsplit, hdigits⟩ := hfirst.numbered
      exact Or.inr ⟨[], digits, rest, hsplit, gap_nil, hdigits⟩
    · have hcons : ∀ gap, Gap gap → ¬ VariableAt (c :: gap) 0 → Gap (c :: gap) := by
        intro gap hgap hzero i
        cases i with
        | zero => exact hzero
        | succ i => exact hgap i
      rcases ih with hgap | ⟨gap, digits, rest, rfl, hgap, hdigits⟩
      · exact Or.inl (hcons text hgap hfirst)
      · refine Or.inr ⟨c :: gap, digits, rest, rfl, hcons gap hgap ?_, hdigits⟩
        -- A variable at the start of the gap would also start the text.
        intro hzero
        have hx : ∀ d ∈ ('x' :: digits ++ rest).head?, isDigit d = false :=
          head_not_digit (by decide) _
        have hstart := (variableAt_extend hx (Nat.zero_lt_succ _)).mpr hzero
        exact hfirst (by simpa using hstart)

/-- Texts are followed from variable to variable. -/
@[elab_as_elim]
theorem text_induction {P : List Char → Prop} (gap : ∀ text, Gap text → P text)
    (next : ∀ gap digits rest, Gap gap → Numbered digits rest → P rest →
      P (gap ++ 'x' :: digits ++ rest)) (text : List Char) : P text := by
  induction hn : text.length using Nat.strongRecOn generalizing text with
  | _ n ih =>
    rcases gap_or_variable text with hgap | ⟨before, digits, rest, rfl, hgap, hdigits⟩
    · exact gap text hgap
    · refine next before digits rest hgap hdigits (ih rest.length ?_ rest rfl)
      rw [← hn]
      simp only [List.length_append, List.length_cons]
      omega

def places (text : List Char) : List Nat :=
  (List.range text.length).filter fun i => VariableAt text i

def digitsAt (text : List Char) (i : Nat) : List Char := (text.drop (i + 1)).takeWhile isDigit

/-- What stands in front of a place, back to the digits of the variable before. -/
def gapBefore (text : List Char) (i : Nat) : List Char :=
  match ((places text).filter (· < i)).getLast? with
  | some j => (text.take i).drop (j + 1 + (digitsAt text j).length)
  | none => text.take i

theorem places_eq_nil {text : List Char} : places text = [] ↔ Gap text := by
  rw [places, List.filter_eq_nil_iff]
  constructor
  · intro h i hi
    have hlength : i < text.length := (List.getElem?_eq_some_iff.mp hi.1).1
    exact h i (List.mem_range.mpr hlength) (by simpa using hi)
  · intro h i _
    simpa using h i

instance (text : List Char) : Decidable (Gap text) := decidable_of_iff _ places_eq_nil

theorem places_append (front : List Char) {after : List Char}
    (h : ∀ c ∈ after.head?, isDigit c = false) :
    places (front ++ after) = places front ++ (places after).map (front.length + ·) := by
  have hfront : ∀ i ∈ List.range front.length,
      decide (VariableAt (front ++ after) i) = decide (VariableAt front i) := fun i hi =>
    decide_eq_decide.mpr (variableAt_extend h (List.mem_range.mp hi))
  have hafter : (fun i => decide (VariableAt (front ++ after) i)) ∘ (front.length + ·) =
      fun i => decide (VariableAt after i) := by
    funext i
    exact decide_eq_decide.mpr (variableAt_append front after i)
  rw [places, List.length_append, List.range_add, List.filter_append, List.filter_congr hfront,
    List.filter_map, hafter, places, places]

theorem places_number {digits : List Char} (h : Numbered digits []) :
    places ('x' :: digits) = [0] := by
  have hzero : VariableAt ('x' :: digits) 0 := by
    rw [variableAt_zero]
    refine ⟨rfl, ?_⟩
    rw [← List.append_nil digits, Decimal.takeWhile_digits h.digit h.ends]
    exact h.filled
  rw [places, List.length_cons, List.range_succ_eq_map, List.filter_cons_of_pos (by simpa using hzero),
    List.filter_map]
  simp only [List.cons.injEq, true_and, List.map_eq_nil_iff, List.filter_eq_nil_iff]
  intro i _
  simpa [variableAt_succ] using not_variableAt_digits h.digit i

theorem digitsAt_append (front after : List Char) (i : Nat) :
    digitsAt (front ++ after) (front.length + i) = digitsAt after i := by
  rw [digitsAt, Nat.add_assoc, List.drop_length_add_append, digitsAt]

section Cut

variable {gap digits rest : List Char}

theorem places_cut (hgap : Gap gap) (h : Numbered digits rest) :
    places (gap ++ 'x' :: digits ++ rest) =
      gap.length :: (places rest).map ((gap ++ 'x' :: digits).length + ·) := by
  have hx : ∀ c ∈ ('x' :: digits).head?, isDigit c = false := head_not_digit (by decide) digits
  rw [places_append _ h.ends, places_append gap hx, places_eq_nil.mpr hgap,
    places_number ⟨h.filled, h.digit, fun c hc => by cases hc⟩]
  rfl

theorem digitsAt_cut (h : Numbered digits rest) :
    digitsAt (gap ++ 'x' :: digits ++ rest) gap.length = digits := by
  have hfirst := digitsAt_append gap ('x' :: digits ++ rest) 0
  rw [← List.append_assoc] at hfirst
  exact hfirst.trans (Decimal.takeWhile_digits h.digit h.ends)

theorem gapBefore_cut (hgap : Gap gap) (h : Numbered digits rest) :
    gapBefore (gap ++ 'x' :: digits ++ rest) gap.length = gap := by
  have hnone : (places (gap ++ 'x' :: digits ++ rest)).filter (· < gap.length) = [] := by
    rw [places_cut hgap h, List.filter_eq_nil_iff]
    intro i hi
    rcases List.mem_cons.mp hi with rfl | hi
    · simp
    · obtain ⟨j, -, rfl⟩ := List.mem_map.mp hi
      simp only [List.length_append, decide_eq_true_eq]
      omega
  rw [gapBefore, hnone, List.getLast?_nil, List.append_assoc]
  exact List.take_left

theorem gapBefore_shift (hgap : Gap gap) (h : Numbered digits rest) (i : Nat) :
    gapBefore (gap ++ 'x' :: digits ++ rest) ((gap ++ 'x' :: digits).length + i) =
      gapBefore rest i := by
  have hfilter : (places (gap ++ 'x' :: digits ++ rest)).filter
      (· < (gap ++ 'x' :: digits).length + i) = gap.length ::
        ((places rest).filter (· < i)).map ((gap ++ 'x' :: digits).length + ·) := by
    rw [places_cut hgap h, List.filter_cons_of_pos (by simp; omega), List.filter_map]
    congr 3
    funext j
    simp
  rw [gapBefore, hfilter, List.getLast?_cons, List.getLast?_map, List.take_length_add_append,
    gapBefore]
  cases ((places rest).filter (· < i)).getLast? with
  | none =>
    have hend : gap.length + 1 + digits.length = (gap ++ 'x' :: digits).length := by
      simp only [List.length_append, List.length_cons]
      omega
    dsimp only [Option.map_none, Option.getD_none]
    rw [digitsAt_cut h, hend, List.drop_left]
  | some j =>
    dsimp only [Option.map_some, Option.getD_some]
    rw [digitsAt_append, Nat.add_assoc, Nat.add_assoc, List.drop_length_add_append, Nat.add_assoc]

end Cut

end Tableaux.Expression
