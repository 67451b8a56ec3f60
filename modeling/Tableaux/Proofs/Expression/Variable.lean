import Tableaux.Proofs.Expression.Character
import Tableaux.Proofs.Text.Line

/-!
# Variables of a text and of its parts

The numbers of the variables of a text are those of its parts, in order, wherever it
is cut in front of a character that is no digit. Hence trimming, cutting into lines,
cutting off labels and joining with blanks neither create nor lose a variable, and
the scan for terms meets exactly the variables of the text.
-/
namespace Tableaux.Expression

open Decimal (isDigit)
open Text (isBlank Line pieces join trim lines)

theorem takeWhile_digits_append (text : List Char) {after : List Char}
    (h : ∀ c ∈ after.head?, isDigit c = false) :
    (text ++ after).takeWhile isDigit = text.takeWhile isDigit := by
  rw [List.takeWhile_append]
  split
  · rename_i hall
    have htext : text.takeWhile isDigit = text :=
      (List.takeWhile_prefix isDigit).eq_of_length hall
    rw [Decimal.takeWhile_no_digit h, List.append_nil, htext]
  · rfl

/-- Cutting in front of a character that is no digit cuts no variable. -/
theorem variableNumbers_append (before : List Char) {after : List Char}
    (h : ∀ c ∈ after.head?, isDigit c = false) :
    variableNumbers (before ++ after) = variableNumbers before ++ variableNumbers after := by
  induction before with
  | nil => rfl
  | cons c rest ih =>
    by_cases hc : c = 'x'
    · rw [List.cons_append, variableNumbers, if_pos hc, variableNumbers, if_pos hc, ih,
        takeWhile_digits_append rest h, List.append_assoc]
    · rw [List.cons_append, variableNumbers, if_neg hc, variableNumbers, if_neg hc, ih]

theorem variableNumbers_skip {before : List Char} (h : 'x' ∉ before)
    (after : List Char) : variableNumbers (before ++ after) = variableNumbers after := by
  induction before with
  | nil => rfl
  | cons c rest ih =>
    have hc : c ≠ 'x' := fun e => h (e ▸ List.mem_cons_self)
    rw [List.cons_append, variableNumbers, if_neg hc]
    exact ih fun hm => h (List.mem_cons_of_mem _ hm)

theorem variableNumbers_empty {text : List Char} (h : 'x' ∉ text) :
    variableNumbers text = [] := by
  simpa [variableNumbers] using variableNumbers_skip h []

theorem variableNumbers_dropWhile (text : List Char) :
    variableNumbers (text.dropWhile isDigit) = variableNumbers text := by
  have hdigits : 'x' ∉ text.takeWhile isDigit := fun hx =>
    digit_ne_x (List.mem_takeWhile_imp hx) rfl
  calc variableNumbers (text.dropWhile isDigit)
      = variableNumbers (text.takeWhile isDigit ++ text.dropWhile isDigit) :=
        (variableNumbers_skip hdigits _).symm
    _ = variableNumbers text := by rw [List.takeWhile_append_dropWhile]

/-- A separator that neither is an `x` nor continues a number. -/
def Separates (c : Char) : Prop := c ≠ 'x' ∧ isDigit c = false

instance (c : Char) : Decidable (Separates c) :=
  inferInstanceAs (Decidable (_ ≠ _ ∧ _ = _))

theorem variableNumbers_cut {c : Char} (h : Separates c) (before after : List Char) :
    variableNumbers (before ++ c :: after) = variableNumbers before ++ variableNumbers after := by
  rw [variableNumbers_append before (by simpa using h.2), variableNumbers, if_neg h.1]

theorem variableNumbers_join {c : Char} (h : Separates c) (parts : List (List Char)) :
    variableNumbers (join [c] parts) = parts.flatMap variableNumbers := by
  induction parts with
  | nil => rfl
  | cons part others ih =>
    cases others with
    | nil => simp [join]
    | cons next others =>
      rw [List.flatMap_cons, Text.join_cons (by simp), List.append_assoc, List.singleton_append,
        variableNumbers_cut h, ih]

theorem variableNumbers_pieces {c : Char} (h : Separates c) (text : List Char) :
    (pieces c text).flatMap variableNumbers = variableNumbers text := by
  rw [← variableNumbers_join h, Text.join_pieces]

theorem variableNumbers_trim (text : List Char) :
    variableNumbers (trim text) = variableNumbers text := by
  obtain ⟨before, after, hb, ha, ht⟩ := Text.trim_split text
  have hhead : ∀ c ∈ after.head?, isDigit c = false := fun c hc =>
    blank_not_digit (ha c (List.mem_of_mem_head? hc))
  calc variableNumbers (trim text)
      = variableNumbers (trim text) ++ variableNumbers after := by
        rw [variableNumbers_empty fun hx => blank_ne_x (ha _ hx) rfl, List.append_nil]
    _ = variableNumbers (before ++ (trim text ++ after)) := by
        rw [variableNumbers_skip fun hx => blank_ne_x (hb _ hx) rfl, variableNumbers_append _ hhead]
    _ = variableNumbers text := by rw [← List.append_assoc, ← ht]

theorem variableNumbers_lines (text : List Char) :
    (lines text).flatMap (fun line => variableNumbers line.text) = variableNumbers text := by
  rw [← variableNumbers_pieces (show Separates '\n' by decide) text, lines]
  -- No variable depends on the line numbers, which grow along the induction.
  generalize 1 = first
  induction pieces '\n' text generalizing first with
  | nil => rfl
  | cons piece others ih =>
    rw [List.zipIdx_cons, List.filterMap_cons, List.flatMap_cons, ← ih (first + 1),
      ← variableNumbers_trim piece]
    by_cases hblank : trim piece = []
    · simp [hblank, variableNumbers]
    · simp [hblank]

/-- An `x` directly followed by digits, as many as there are, that write a number. -/
def Mentions (text : List Char) (n : Nat) : Prop :=
  ∃ before digits after, text = before ++ 'x' :: (digits ++ after) ∧ digits ≠ [] ∧
    (∀ c ∈ digits, isDigit c = true) ∧ (∀ c ∈ after.head?, isDigit c = false) ∧
    Nat.ofDigitChars 10 digits 0 = n

theorem Mentions.cons {text : List Char} {n : Nat} (h : Mentions text n) (c : Char) :
    Mentions (c :: text) n := by
  obtain ⟨before, digits, after, rfl, hrest⟩ := h
  exact ⟨c :: before, digits, after, rfl, hrest⟩

theorem variableNumber_eq_some {digits : List Char} {n : Nat} :
    variableNumber? digits = some n ↔
      digits ≠ [] ∧ Nat.ofDigitChars 10 digits 0 = n ∧ n < numberLimit := by
  simp only [variableNumber?]
  constructor
  · intro h
    split at h
    · rename_i hd
      cases h
      exact ⟨hd.1, rfl, hd.2⟩
    · cases h
  · rintro ⟨hne, rfl, hlt⟩
    rw [if_pos ⟨hne, hlt⟩]

/-- A variable is seen unless its number is too large to be represented. -/
theorem mem_variableNumbers {text : List Char} {n : Nat} :
    n ∈ variableNumbers text ↔ Mentions text n ∧ n < numberLimit := by
  constructor
  · intro h
    induction text with
    | nil => exact absurd h List.not_mem_nil
    | cons c rest ih =>
      rw [variableNumbers] at h
      by_cases hc : c = 'x'
      · rw [if_pos hc] at h
        rcases List.mem_append.mp h with h | h
        · obtain ⟨hne, hvalue, hlt⟩ := variableNumber_eq_some.mp (Option.mem_toList.mp h)
          refine ⟨⟨[], rest.takeWhile isDigit, rest.dropWhile isDigit, ?_, hne,
            fun d hd => List.mem_takeWhile_imp hd, ?_, hvalue⟩, hlt⟩
          · rw [List.takeWhile_append_dropWhile, hc, List.nil_append]
          · intro d hd
            have hhead := List.head?_dropWhile_not isDigit rest
            rw [hd] at hhead
            exact hhead
        · exact ⟨(ih h).1.cons c, (ih h).2⟩
      · rw [if_neg hc] at h
        exact ⟨(ih h).1.cons c, (ih h).2⟩
  · rintro ⟨⟨before, digits, after, rfl, hne, hdigits, hafter, hvalue⟩, hlt⟩
    rw [variableNumbers_append before (by simp; decide), variableNumbers, if_pos rfl,
      Decimal.takeWhile_digits hdigits hafter, variableNumber_eq_some.mpr ⟨hne, hvalue, hlt⟩]
    exact List.mem_append_right _ List.mem_cons_self

theorem le_largestVariable {text : List Char} {n : Nat} (h : n ∈ variableNumbers text) :
    ∃ width, largestVariable? text = some width ∧ n ≤ width := by
  cases hw : largestVariable? text with
  | none =>
    rw [List.max?_eq_none_iff.mp hw] at h
    exact absurd h List.not_mem_nil
  | some width => exact ⟨width, rfl, (List.max?_eq_some_iff.mp hw).2 n h⟩

theorem largestVariable_mentioned {text : List Char} {width : Nat}
    (h : largestVariable? text = some width) : Mentions text width ∧ width < numberLimit :=
  mem_variableNumbers.mp (List.max?_eq_some_iff.mp h).1

theorem mentioned_le_largestVariable {text : List Char} {width n : Nat}
    (h : largestVariable? text = some width) (hn : Mentions text n) (hlt : n < numberLimit) :
    n ≤ width :=
  (List.max?_eq_some_iff.mp h).2 n (mem_variableNumbers.mpr ⟨hn, hlt⟩)

theorem numbers_termsAfter (k : Coefficient) (text : List Char) :
    (termsAfter k text).map Term.number = variableNumbers text := by
  fun_induction termsAfter k text with
  | case1 => rfl
  | case2 k c rest h ih =>
    rw [variableNumbers, if_pos h.1, List.map_append, ih, variableNumbers_dropWhile]
    congr 1
    cases variableNumber? (rest.takeWhile isDigit) <;> rfl
  | case3 k c rest h ih =>
    rw [ih, variableNumbers]
    by_cases hc : c = 'x'
    · have hnone : rest.takeWhile isDigit = [] := by
        by_contra hd
        exact h ⟨hc, hd⟩
      simp [hc, hnone, variableNumber?]
    · rw [if_neg hc]

theorem numbers_terms (text : List Char) :
    (terms text).map Term.number = variableNumbers text := numbers_termsAfter .start text

theorem number_mem_of_mem_terms {text : List Char} {t : Term} (h : t ∈ terms text) :
    t.number ∈ variableNumbers text := by
  rw [← numbers_terms]
  exact List.mem_map_of_mem h

end Tableaux.Expression
