import Tableaux.Proofs.Expression.Backward
import Tableaux.Proofs.Expression.Variable

/-!
# The scan for terms

Over a gap the scan only collects a coefficient, and behind the digits of a variable it starts
anew. So it finds the variables one after the other, each with what one reads back from it to the
variable before.
-/
namespace Tableaux.Expression

open Decimal (isDigit)

variable {gap digits rest : List Char}

theorem termsAfter_front {front : List Char}
    (h : ∀ i < front.length, ¬ VariableAt (front ++ rest) i) (k : Coefficient) :
    termsAfter k (front ++ rest) = termsAfter (front.foldl Coefficient.next k) rest := by
  induction front generalizing k with
  | nil => rfl
  | cons c front ih =>
    have hc : ¬ (c = 'x' ∧ (front ++ rest).takeWhile isDigit ≠ []) := by
      rw [← variableAt_zero]
      exact h 0 (Nat.zero_lt_succ _)
    have hrest : ∀ i < front.length, ¬ VariableAt (front ++ rest) i := fun i hi hvariable =>
      h (i + 1) (Nat.succ_lt_succ hi) ((variableAt_succ c _ i).mpr hvariable)
    rw [List.cons_append, termsAfter, if_neg hc, ih hrest, List.foldl_cons]

theorem termsAfter_gap (hgap : Gap gap) (h : ∀ c ∈ rest.head?, isDigit c = false)
    (k : Coefficient) :
    termsAfter k (gap ++ rest) = termsAfter (gap.foldl Coefficient.next k) rest :=
  termsAfter_front (fun i hi hvariable => hgap i ((variableAt_extend h hi).mp hvariable)) k

theorem termsAfter_skip {front : List Char} (h : 'x' ∉ front) (k : Coefficient)
    (rest : List Char) :
    termsAfter k (front ++ rest) = termsAfter (front.foldl Coefficient.next k) rest := by
  refine termsAfter_front (fun i hi hvariable => h ?_) k
  have hx := hvariable.1
  rw [List.getElem?_append_left hi] at hx
  exact List.mem_of_getElem? hx

theorem termsAfter_number (h : Numbered digits rest) (k : Coefficient) :
    termsAfter k ('x' :: digits ++ rest) =
      ((variableNumber? digits).map fun number => ⟨k.text, number⟩).toList ++ terms rest := by
  have htake : (digits ++ rest).takeWhile isDigit = digits := Decimal.takeWhile_digits h.digit h.ends
  have hdrop : (digits ++ rest).dropWhile isDigit = rest := Decimal.dropWhile_digits h.digit h.ends
  rw [List.cons_append, termsAfter, htake, hdrop, if_pos ⟨rfl, h.filled⟩, terms]

def termOf? (gap digits : List Char) : Option Term :=
  (variableNumber? digits).map fun number => ⟨readBackwards gap, number⟩

theorem terms_of_gap (h : Gap gap) : terms gap = [] := by
  have hnil : ∀ c ∈ ([] : List Char).head?, isDigit c = false := by simp
  have hscan := termsAfter_gap h hnil .start
  rw [List.append_nil] at hscan
  rw [terms, hscan, termsAfter]

theorem terms_cut (hgap : Gap gap) (h : Numbered digits rest) :
    terms (gap ++ 'x' :: digits ++ rest) = (termOf? gap digits).toList ++ terms rest := by
  have hx : ∀ c ∈ ('x' :: digits ++ rest).head?, isDigit c = false := head_not_digit (by decide) _
  rw [List.append_assoc, terms, termsAfter_gap hgap hx, termsAfter_number h,
    (collected_foldl gap).text, termOf?]

def termAt? (text : List Char) (i : Nat) : Option Term :=
  termOf? (gapBefore text i) (digitsAt text i)

theorem terms_places (text : List Char) : terms text = (places text).filterMap (termAt? text) := by
  induction text using text_induction with
  | gap text h => rw [terms_of_gap h, places_eq_nil.mpr h, List.filterMap_nil]
  | next gap digits rest hgap h ih =>
    have hfirst : termAt? (gap ++ 'x' :: digits ++ rest) gap.length = termOf? gap digits := by
      rw [termAt?, gapBefore_cut hgap h, digitsAt_cut h]
    have hothers (i : Nat) : termAt? (gap ++ 'x' :: digits ++ rest)
        ((gap ++ 'x' :: digits).length + i) = termAt? rest i := by
      rw [termAt?, gapBefore_shift hgap h, digitsAt_append, termAt?]
    rw [terms_cut hgap h, places_cut hgap h, ih, List.filterMap_eq_flatMap_toList,
      List.filterMap_eq_flatMap_toList, List.flatMap_cons, hfirst, List.flatMap_map]
    simp only [hothers]

def Term.Scannable (t : Term) : Prop := IsCoefficient t.coefficient ∧ t.number < numberLimit

instance (t : Term) : Decidable t.Scannable := inferInstanceAs (Decidable (_ ∧ _))

theorem scannable_of_termOf {t : Term} (h : t ∈ termOf? gap digits) : t.Scannable := by
  obtain ⟨number, hnumber, rfl⟩ := Option.map_eq_some_iff.mp h
  exact ⟨isCoefficient_readBackwards gap, (variableNumber_eq_some.mp hnumber).2.2⟩

theorem scannable_of_mem {text : List Char} {t : Term} (h : t ∈ terms text) : t.Scannable := by
  rw [terms_places] at h
  obtain ⟨i, -, hi⟩ := List.mem_filterMap.mp h
  exact scannable_of_termOf hi

end Tableaux.Expression
