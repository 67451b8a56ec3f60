import Tableaux.Proofs.Expression.Scan
import Tableaux.Proofs.Text.Pattern

/-!
# The pattern of a term

A term is written as a sign, blanks, a magnitude, blanks, an `x` and a number, of which the sign,
the magnitude and the blanks may be missing. What the scan finds are the matches of this pattern,
and what it reads as the coefficient is the sign and the magnitude of the match.
-/
namespace Tableaux.Expression

open Decimal (isDigit)
open Text (Pattern Repetition allMatches isBlank matchStart?)

def isSign (c : Char) : Bool := c == '+' || c == '-'

def termPattern : Pattern :=
  [⟨isSign, 0, some 1⟩, ⟨isBlank, 0, none⟩, ⟨isMagnitude, 0, none⟩, ⟨isBlank, 0, none⟩,
    ⟨(· == 'x'), 1, some 1⟩, ⟨isDigit, 1, none⟩]

def normalize (written : List Char) : List Char :=
  let compact := written.filter fun c => !isBlank c
  let unsigned := if compact.head? = some '+' then compact.tail else compact
  if unsigned = [] then ['1'] else if unsigned = ['-'] then ['-', '1'] else unsigned

def matchedTerm? : List (List Char) → Option Term
  | [sign, front, magnitude, _, _, digits] =>
    (variableNumber? digits).map fun number => ⟨normalize (sign ++ front ++ magnitude), number⟩
  | _ => none

def matchedTerms (text : List Char) : List Term :=
  (allMatches termPattern text).filterMap matchedTerm?

variable {before sign front magnitude back digits rest text : List Char}

theorem Lead.normalize_eq (h : Lead before sign front magnitude back) :
    normalize (sign ++ front ++ magnitude) =
      (if sign = ['-'] then ['-'] else []) ++ if magnitude = [] then ['1'] else magnitude := by
  have hfront : front.filter (fun c => !isBlank c) = [] := by
    rw [List.filter_eq_nil_iff]
    intro c hc
    simp [h.spaced c hc]
  have hmagnitude : magnitude.filter (fun c => !isBlank c) = magnitude := by
    rw [List.filter_eq_self]
    intro c hc
    simp [magnitude_not_blank (h.typed c hc)]
  have hplus : magnitude.head? ≠ some '+' := fun hhead =>
    absurd (h.typed '+' (List.mem_of_head? hhead)) (by decide)
  have hminus : magnitude ≠ ['-'] := by
    rintro rfl
    exact absurd (h.typed '-' (by simp)) (by decide)
  rw [normalize, List.filter_append, List.filter_append, hfront, hmagnitude, List.append_nil]
  rcases h.signed with rfl | rfl | rfl
  · simp [hplus, hminus]
  · simp [hminus, show isBlank '+' = false by decide]
  · by_cases hnone : magnitude = []
    · subst hnone
      decide
    · simp [hnone, show isBlank '-' = false by decide]

theorem fits_sign {part : List Char} :
    Repetition.Fits ⟨isSign, 0, some 1⟩ part ↔ part = [] ∨ part = ['+'] ∨ part = ['-'] := by
  constructor
  · rintro ⟨hall, -, hmost⟩
    match part with
    | [] => exact Or.inl rfl
    | [c] => simpa [isSign] using hall
    | c :: d :: others => simpa using hmost 1 rfl
  · rintro (rfl | rfl | rfl) <;> decide

theorem fits_many {holds : Char → Bool} {part : List Char} :
    Repetition.Fits ⟨holds, 0, none⟩ part ↔ ∀ c ∈ part, holds c = true := by
  simp [Repetition.Fits]

theorem fits_x {part : List Char} :
    Repetition.Fits ⟨(· == 'x'), 1, some 1⟩ part ↔ part = ['x'] := by
  constructor
  · rintro ⟨hall, hleast, hmost⟩
    match part with
    | [c] => simpa using hall
    | c :: d :: others => simpa using hmost 1 rfl
  · rintro rfl
    decide

theorem fits_number {part : List Char} :
    Repetition.Fits ⟨isDigit, 1, none⟩ part ↔ part ≠ [] ∧ ∀ c ∈ part, isDigit c = true := by
  simp [Repetition.Fits, Nat.one_le_iff_ne_zero, and_comm]

theorem numbered_of_match (front : Pattern) (others : List (List Char))
    (hfits : Repetition.Fits ⟨isDigit, 1, none⟩ digits)
    (h : matchStart? (front ++ [⟨isDigit, 1, none⟩]) (others.flatten ++ digits ++ rest) =
      some (others ++ [digits])) : Numbered digits rest := by
  obtain ⟨hfilled, hdigits⟩ := fits_number.mp hfits
  obtain ⟨others', last, hparts, hlongest⟩ := Text.matchStart_last h
  obtain ⟨rfl, hlast⟩ := List.append_inj' hparts rfl
  obtain rfl := List.singleton_inj.mp hlast
  refine ⟨hfilled, hdigits, ?_⟩
  -- A digit behind the last part would be part of it.
  intro c hc
  by_contra hdigit
  obtain ⟨behind, rfl⟩ := List.head?_eq_some_iff.mp hc
  have hall : ∀ d ∈ digits ++ [c], isDigit d = true := by
    intro d hd
    rcases List.mem_append.mp hd with hd | hd
    · exact hdigits d hd
    · obtain rfl := List.mem_singleton.mp hd
      simpa using hdigit
  have hlonger := hlongest (digits ++ [c]) behind (by simp) (fits_number.mpr ⟨by simp, hall⟩)
  rw [List.length_append, List.length_singleton] at hlonger
  omega

/-- A match is a coefficient in its parts and a variable with all its digits. -/
theorem matchStart_term {parts : List (List Char)}
    (h : matchStart? termPattern text = some parts) :
    ∃ sign front magnitude back digits rest, parts = [sign, front, magnitude, back, ['x'], digits] ∧
      text = sign ++ front ++ magnitude ++ back ++ 'x' :: digits ++ rest ∧
      Lead [] sign front magnitude back ∧ Numbered digits rest := by
  obtain ⟨hfits, rest, rfl⟩ := Text.fits_of_matchStart h
  simp only [termPattern, List.forall₂_cons_left_iff, List.forall₂_nil_left_iff, fits_sign,
    fits_many, fits_x, fits_number] at hfits
  obtain ⟨sign, _, hsign, ⟨front, _, hfront, ⟨magnitude, _, hmagnitude, ⟨back, _, hback,
    ⟨_, _, rfl, ⟨digits, _, ⟨hfilled, hdigits⟩, rfl, rfl⟩, rfl⟩, rfl⟩, rfl⟩, rfl⟩, rfl⟩ := hfits
  have hnumbered : Numbered digits rest :=
    numbered_of_match termPattern.dropLast [sign, front, magnitude, back, ['x']]
      (fits_number.mpr ⟨hfilled, hdigits⟩) (by simpa [termPattern] using h)
  exact ⟨sign, front, magnitude, back, digits, rest, rfl, by simp,
    ⟨hsign, hfront, hmagnitude, hback, by simp⟩, hnumbered⟩

theorem matchStart_of_lead (h : Lead before sign front magnitude back)
    (hdigits : Numbered digits rest) :
    matchStart? termPattern (sign ++ front ++ magnitude ++ back ++ 'x' :: digits ++ rest) ≠ none := by
  have hfits : List.Forall₂ Repetition.Fits termPattern
      [sign, front, magnitude, back, ['x'], digits] :=
    .cons (fits_sign.mpr h.signed) (.cons (fits_many.mpr h.spaced) (.cons (fits_many.mpr h.typed)
      (.cons (fits_many.mpr h.padded) (.cons (fits_x.mpr rfl)
        (.cons (fits_number.mpr ⟨hdigits.filled, hdigits.digit⟩) .nil)))))
  have hmatch := Text.matchStart_ne_none hfits rest
  simpa using hmatch

theorem matchStart_of_variable {i : Nat} (h : VariableAt text i) :
    matchStart? termPattern (text.drop i) ≠ none := by
  obtain ⟨digits, rest, hdrop, hdigits⟩ := h.numbered
  have hlead : Lead [] [] [] [] [] := ⟨Or.inl rfl, by simp, by simp, by simp, by simp⟩
  rw [hdrop]
  simpa only [List.nil_append] using matchStart_of_lead hlead hdigits

theorem Lead.not_mem_x (h : Lead before sign front magnitude back) :
    'x' ∉ sign ++ front ++ magnitude ++ back := by
  have hsign : 'x' ∉ sign := by rcases h.signed with rfl | rfl | rfl <;> decide
  have hblank : isBlank 'x' ≠ true := by decide
  have hmagnitude : isMagnitude 'x' ≠ true := by decide
  simp only [List.mem_append, not_or]
  exact ⟨⟨⟨hsign, fun hx => hblank (h.spaced _ hx)⟩, fun hx => hmagnitude (h.typed _ hx)⟩,
    fun hx => hblank (h.padded _ hx)⟩

section Leftmost

variable (h : Lead [] sign front magnitude back)
  (hleft : ∀ i < before.length, matchStart? termPattern
    ((before ++ sign ++ front ++ magnitude ++ back ++ 'x' :: digits ++ rest).drop i) = none)

include h hleft

theorem gap_of_leftmost : Gap (before ++ sign ++ front ++ magnitude ++ back) := by
  intro i hi
  have hlength : i < (before ++ sign ++ front ++ magnitude ++ back).length :=
    (List.getElem?_eq_some_iff.mp hi.1).1
  by_cases hbefore : i < before.length
  · have hx : ∀ c ∈ ('x' :: digits ++ rest).head?, isDigit c = false :=
      head_not_digit (by decide) _
    have hvariable := (variableAt_extend hx hlength).mpr hi
    rw [← List.append_assoc] at hvariable
    exact matchStart_of_variable hvariable (hleft i hbefore)
  · have hx := hi.1
    rw [List.append_assoc, List.append_assoc, List.append_assoc,
      List.getElem?_append_right (by omega), ← List.append_assoc, ← List.append_assoc] at hx
    exact h.not_mem_x (List.mem_of_getElem? hx)

/-- Whatever belongs to a coefficient starts a match, so nothing in front of the leftmost match
does. -/
theorem lead_of_leftmost (hdigits : Numbered digits rest) :
    Lead before sign front magnitude back where
  signed := h.signed
  spaced := h.spaced
  typed := h.typed
  padded := h.padded
  apart := by
    rintro rfl others c rfl
    have hnone : matchStart? termPattern
        (c :: (front ++ magnitude ++ back ++ 'x' :: digits ++ rest)) = none := by
      simpa using hleft others.length (by simp)
    have hlead : ∀ {sign' front' magnitude' back' : List Char},
        Lead [] sign' front' magnitude' back' →
        c :: (front ++ magnitude ++ back) ≠ sign' ++ front' ++ magnitude' ++ back' := by
      intro sign' front' magnitude' back' hother heq
      apply matchStart_of_lead hother hdigits
      rw [← heq]
      exact hnone
    refine ⟨?_, ?_, ?_⟩
    · by_contra hc
      have hspaced : ∀ d ∈ c :: front, isBlank d = true := by
        simpa using ⟨by simpa using hc, h.spaced⟩
      exact hlead ⟨Or.inl rfl, hspaced, h.typed, h.padded, by simp⟩ (by simp)
    · rintro rfl
      exact hlead ⟨Or.inr (Or.inr rfl), h.spaced, h.typed, h.padded, by simp⟩ (by simp)
    · intro hclosed
      by_contra hc
      rcases hclosed with rfl | rfl
      · have htyped : ∀ d ∈ c :: magnitude, isMagnitude d = true := by
          simpa using ⟨by simpa using hc, h.typed⟩
        exact hlead ⟨Or.inl rfl, h.spaced, htyped, h.padded, by simp⟩ (by simp)
      · have htyped : ∀ d ∈ [c], isMagnitude d = true := by simpa using hc
        have hpadded : ∀ d ∈ front ++ back, isBlank d = true := by
          simpa [or_imp, forall_and] using ⟨h.spaced, h.padded⟩
        have hother : Lead [] [] [] [c] (front ++ back) :=
          ⟨Or.inl rfl, by simp, htyped, hpadded, by simp⟩
        exact hlead hother (by simp)

end Leftmost

theorem matchStart_filled {parts : List (List Char)}
    (h : matchStart? termPattern text = some parts) : parts.flatten ≠ [] := by
  obtain ⟨sign, front, magnitude, back, digits, rest, rfl, -, -, -⟩ := matchStart_term h
  simp

theorem matchedTerms_eq (text : List Char) : matchedTerms text = terms text := by
  -- Behind its first match the text is shorter, and scan and pattern both start anew.
  induction hn : text.length using Nat.strongRecOn generalizing text with
  | _ n ih =>
    rcases Text.allMatches_cases (fun text parts h => matchStart_filled h) text with
      ⟨hnil, hnone⟩ | ⟨before, parts, rest, rfl, hleft, hmatch, hothers⟩
    · have hgap : Gap text := fun i hi => matchStart_of_variable hi (hnone i)
      rw [matchedTerms, hnil, terms_of_gap hgap, List.filterMap_nil]
    · obtain ⟨sign, front, magnitude, back, digits, after, rfl, hafter, hlead, hdigits⟩ :=
        matchStart_term hmatch
      obtain rfl : rest = after := by simpa using hafter
      have hsplit : before ++ ([sign, front, magnitude, back, ['x'], digits].flatten ++ rest) =
          before ++ sign ++ front ++ magnitude ++ back ++ 'x' :: digits ++ rest := by simp
      rw [hsplit] at hleft hothers hn ⊢
      have hterm : matchedTerm? [sign, front, magnitude, back, ['x'], digits] =
          termOf? (before ++ sign ++ front ++ magnitude ++ back) digits := by
        rw [matchedTerm?, termOf?, hlead.normalize_eq,
          (lead_of_leftmost hlead hleft hdigits).readBackwards_eq]
      have hshorter : rest.length < n := by
        rw [← hn]
        simp only [List.length_append, List.length_cons]
        omega
      rw [matchedTerms, hothers, List.filterMap_eq_flatMap_toList, List.flatMap_cons, hterm,
        ← List.filterMap_eq_flatMap_toList, ← matchedTerms, ih rest.length hshorter rest rfl,
        terms_cut (gap_of_leftmost hlead hleft) hdigits]

/-- The terms of a text are those of its variables from left to right, with the coefficients that
one reads going back to the variable before. They are the terms that the pattern matches. -/
theorem terms_read_backwards (text : List Char) :
    terms text = (places text).filterMap (termAt? text) ∧
    (∀ t ∈ terms text, t.Scannable) ∧
    terms text = matchedTerms text :=
  ⟨terms_places text, fun _ ht => scannable_of_mem ht, (matchedTerms_eq text).symm⟩

/-- Several magnitudes in a row, a stray `x`, a number that is too large, and variables that stand
next to each other. -/
def scannedText : List Char :=
  "x - 3 2x01 + - 7x18446744073709551616-\u2003.5M x2x3 9".toList

theorem scannedText_terms :
    terms scannedText = [⟨['2'], 1⟩, ⟨"-.5M".toList, 2⟩, ⟨['1'], 3⟩] ∧
    Term.Scannable ⟨"-.5M".toList, 2⟩ := by
  obtain ⟨hplaces, hscannable, -⟩ := terms_read_backwards scannedText
  have hterms : terms scannedText = [⟨['2'], 1⟩, ⟨"-.5M".toList, 2⟩, ⟨['1'], 3⟩] :=
    hplaces.trans (by decide +kernel)
  exact ⟨hterms, hscannable _ (by rw [hterms]; simp)⟩

end Tableaux.Expression
