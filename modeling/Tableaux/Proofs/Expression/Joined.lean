import Tableaux.Proofs.Expression.Scan

/-!
# Expressions joined by blanks

An expression that ends with a variable, or with a character that is in no coefficient, is closed:
what stands behind it and a blank is scanned as if it stood alone. So the terms of closed
expressions that are joined by blanks are those of the single ones.
-/
namespace Tableaux.Expression

open Decimal (isDigit)
open Text (isBlank join)

/-- The end of an expression, blanks aside, after which nothing goes on with a coefficient. A plus
sign is such an end, since it is dropped. -/
inductive Closed : List Char → Prop where
  | blank (text : List Char) (h : ∀ c ∈ text, isBlank c = true) : Closed text
  | number (before digits after : List Char) (hfilled : digits ≠ [])
      (hdigits : ∀ c ∈ digits, isDigit c = true) (hafter : ∀ c ∈ after, isBlank c = true) :
      Closed (before ++ 'x' :: digits ++ after)
  | other (before : List Char) (c : Char) (after : List Char) (hblank : isBlank c = false)
      (hmagnitude : isMagnitude c = false) (hminus : c ≠ '-')
      (hafter : ∀ d ∈ after, isBlank d = true) : Closed (before ++ c :: after)

/-- Behind a text the scan starts anew, whatever it has collected in front of it. -/
def Restarts (front : List Char) : Prop :=
  ∀ k rest, (∀ c ∈ rest.head?, isDigit c = false) →
    termsAfter k (front ++ rest) = termsAfter k front ++ terms rest

theorem next_other (k : Coefficient) {c : Char} (hblank : isBlank c = false)
    (hmagnitude : isMagnitude c = false) (hminus : c ≠ '-') : k.next c = .start := by
  simp [Coefficient.next, hblank, hmagnitude, hminus]

theorem restarts_other {c : Char} (hblank : isBlank c = false) (hmagnitude : isMagnitude c = false)
    (hminus : c ≠ '-') : Restarts [c] := by
  intro k rest hrest
  have hnone : ∀ after : List Char, (∀ d ∈ after.head?, isDigit d = false) →
      ¬ (c = 'x' ∧ after.takeWhile isDigit ≠ []) :=
    fun after hafter h => h.2 (Decimal.takeWhile_no_digit hafter)
  rw [List.singleton_append, termsAfter, if_neg (hnone rest hrest), termsAfter,
    if_neg (hnone [] (by simp)), next_other k hblank hmagnitude hminus, termsAfter,
    List.nil_append, terms]

theorem restarts_number {digits : List Char} (hfilled : digits ≠ [])
    (hdigits : ∀ c ∈ digits, isDigit c = true) : Restarts ('x' :: digits) := by
  intro k rest hrest
  have hends : Numbered digits [] := ⟨hfilled, hdigits, by simp⟩
  have halone := termsAfter_number hends k
  rw [List.append_nil, terms, termsAfter, List.append_nil] at halone
  rw [termsAfter_number ⟨hfilled, hdigits, hrest⟩, halone]

theorem dropWhile_digits_append (text : List Char) {after : List Char}
    (h : ∀ c ∈ after.head?, isDigit c = false) :
    (text ++ after).dropWhile isDigit = text.dropWhile isDigit ++ after := by
  have hsplit := List.takeWhile_append_dropWhile (p := isDigit) (l := text ++ after)
  rw [takeWhile_digits_append text h] at hsplit
  rw [← List.append_right_inj (text.takeWhile isDigit), hsplit, ← List.append_assoc,
    List.takeWhile_append_dropWhile]

theorem Restarts.behind {front : List Char} (h : Restarts front)
    (hfront : ∀ c ∈ front.head?, isDigit c = false) (before : List Char) :
    Restarts (before ++ front) := by
  intro k rest hrest
  have hhead : ∀ c ∈ (front ++ rest).head?, isDigit c = false := by
    cases front with
    | nil => exact hrest
    | cons c front => exact hfront
  rw [List.append_assoc]
  -- A variable that the scan meets in front has the same digits with and without what follows.
  fun_induction termsAfter k before with
  | case1 k => exact h k rest hrest
  | case2 k c text hvariable ih =>
    have hinner : (text ++ front).takeWhile isDigit = text.takeWhile isDigit :=
      takeWhile_digits_append text hfront
    have houter : (text ++ (front ++ rest)).takeWhile isDigit = text.takeWhile isDigit :=
      takeWhile_digits_append text hhead
    rw [List.cons_append, termsAfter, houter, if_pos hvariable, dropWhile_digits_append text hhead,
      ih, List.cons_append, termsAfter, hinner, if_pos hvariable,
      dropWhile_digits_append text hfront, List.append_assoc]
  | case3 k c text hvariable ih =>
    have hinner : (text ++ front).takeWhile isDigit = text.takeWhile isDigit :=
      takeWhile_digits_append text hfront
    have houter : (text ++ (front ++ rest)).takeWhile isDigit = text.takeWhile isDigit :=
      takeWhile_digits_append text hhead
    rw [List.cons_append, termsAfter, houter, if_neg hvariable, ih, List.cons_append, termsAfter,
      hinner, if_neg hvariable]

theorem foldl_next_blank {text : List Char} (h : ∀ c ∈ text, isBlank c = true) :
    text.foldl Coefficient.next .start = .start := by
  induction text with
  | nil => rfl
  | cons c text ih =>
    have hc : isBlank c = true := h c List.mem_cons_self
    have hplus : c ≠ '+' := by rintro rfl; exact absurd hc (by decide)
    have hminus : c ≠ '-' := by rintro rfl; exact absurd hc (by decide)
    have hnext : Coefficient.start.next c = .start := by
      unfold Coefficient.next
      rw [if_neg hplus, if_neg hminus, if_pos hc]
      rfl
    rw [List.foldl_cons, hnext, ih fun d hd => h d (List.mem_cons_of_mem _ hd)]

theorem terms_blank {front : List Char} (h : ∀ c ∈ front, isBlank c = true) (rest : List Char) :
    terms (front ++ rest) = terms rest := by
  have hx : 'x' ∉ front := fun hmem => blank_ne_x (h 'x' hmem) rfl
  rw [terms, termsAfter_skip hx, foldl_next_blank h, terms]

theorem terms_of_blank {text : List Char} (h : ∀ c ∈ text, isBlank c = true) :
    terms text = [] := by
  have hblank := terms_blank h []
  rwa [List.append_nil, terms_of_gap gap_nil] at hblank

theorem head_after_blank {after rest : List Char} (hafter : ∀ c ∈ after, isBlank c = true)
    (hrest : ∀ c ∈ rest.head?, isDigit c = false) :
    ∀ c ∈ (after ++ rest).head?, isDigit c = false := by
  cases after with
  | nil => exact hrest
  | cons c after => exact head_not_digit (blank_not_digit (hafter c List.mem_cons_self)) _

theorem Restarts.padded {front after : List Char} (h : Restarts front)
    (hafter : ∀ c ∈ after, isBlank c = true) : Restarts (front ++ after) := by
  intro k rest hrest
  have halone : ∀ c ∈ after.head?, isDigit c = false := fun c hc =>
    blank_not_digit (hafter c (List.mem_of_mem_head? hc))
  rw [List.append_assoc, h k _ (head_after_blank hafter hrest), terms_blank hafter, h k _ halone,
    terms_of_blank hafter, List.append_nil]

theorem Closed.terms_append {front : List Char} (h : Closed front) {rest : List Char}
    (hrest : ∀ c ∈ rest.head?, isDigit c = false) :
    terms (front ++ rest) = terms front ++ terms rest := by
  cases h with
  | blank text hblank => rw [terms_blank hblank, terms_of_blank hblank, List.nil_append]
  | number before digits after hfilled hdigits hafter =>
    have hx : ∀ c ∈ ('x' :: digits).head?, isDigit c = false := head_not_digit (by decide) digits
    exact ((restarts_number hfilled hdigits).behind hx before).padded hafter .start rest hrest
  | other before c after hblank hmagnitude hminus hafter =>
    have hdigit : isDigit c = false := by
      by_contra hd
      simp [isMagnitude, hd] at hmagnitude
    have hc : ∀ d ∈ [c].head?, isDigit d = false := head_not_digit hdigit []
    have hrestarts := ((restarts_other hblank hmagnitude hminus).behind hc before).padded hafter
    rw [List.append_assoc, List.singleton_append] at hrestarts
    exact hrestarts .start rest hrest

/-- No term reaches over the blank that joins closed expressions. -/
theorem terms_join {fragments : List (List Char)} (h : ∀ f ∈ fragments.dropLast, Closed f) :
    terms (join [' '] fragments) = fragments.flatMap terms := by
  induction fragments with
  | nil => exact terms_of_gap gap_nil
  | cons fragment others ih =>
    by_cases hne : others = []
    · subst others
      rw [join, List.flatMap_cons, List.flatMap_nil, List.append_nil]
    · rw [List.dropLast_cons_of_ne_nil hne] at h
      have hclosed : Closed fragment := h fragment List.mem_cons_self
      have hblank : ∀ c ∈ [' '], isBlank c = true := List.forall_mem_singleton.mpr (by decide)
      have hhead : ∀ c ∈ ([' '] ++ join [' '] others).head?, isDigit c = false :=
        head_not_digit (by decide) _
      rw [Text.join_cons hne, List.append_assoc, hclosed.terms_append hhead, terms_blank hblank,
        ih fun f hf => h f (List.mem_cons_of_mem _ hf), List.flatMap_cons]

end Tableaux.Expression
