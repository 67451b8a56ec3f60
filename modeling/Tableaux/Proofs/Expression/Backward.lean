import Mathlib.Data.List.DropRight
import Tableaux.Proofs.Expression.Place

/-!
# Coefficients read backwards

What the scan has collected in front of a variable is what one reads going back from it: blanks,
as much of a magnitude as there is, blanks, and a sign. The scan starts anew behind every
variable, so its terms are those of the gaps between variables.
-/
namespace Tableaux.Expression

open Text (isBlank)

/-- An optional minus sign in front of digits, points and `M`s. -/
def IsCoefficient (text : List Char) : Prop :=
  ∃ sign magnitude, text = sign ++ magnitude ∧ (sign = [] ∨ sign = ['-']) ∧
    magnitude ≠ [] ∧ ∀ c ∈ magnitude, isMagnitude c = true

theorem isCoefficient_iff {text : List Char} :
    IsCoefficient text ↔ (if text.head? = some '-' then text.tail else text) ≠ [] ∧
      (if text.head? = some '-' then text.tail else text).all isMagnitude = true := by
  rw [List.all_eq_true]
  constructor
  · rintro ⟨sign, magnitude, rfl, rfl | rfl, hfilled, htyped⟩
    · have hminus : magnitude.head? ≠ some '-' := fun hhead =>
        absurd (htyped '-' (List.mem_of_head? hhead)) (by decide)
      rw [List.nil_append, if_neg hminus]
      exact ⟨hfilled, htyped⟩
    · exact ⟨hfilled, htyped⟩
  · intro h
    by_cases hminus : text.head? = some '-'
    · obtain ⟨magnitude, rfl⟩ := List.head?_eq_some_iff.mp hminus
      exact ⟨['-'], magnitude, rfl, Or.inr rfl, h⟩
    · rw [if_neg hminus] at h
      exact ⟨[], text, rfl, Or.inl rfl, h⟩

instance (text : List Char) : Decidable (IsCoefficient text) :=
  decidable_of_iff _ isCoefficient_iff.symm

/-- The longest magnitude at the end of a text, not counting blanks behind it. -/
def magnitudeBefore (text : List Char) : List Char :=
  (text.rdropWhile isBlank).rtakeWhile isMagnitude

/-- The character in front of that magnitude and of blanks. -/
def signBefore? (text : List Char) : Option Char :=
  (((text.rdropWhile isBlank).rdropWhile isMagnitude).rdropWhile isBlank).getLast?

/-- The coefficient that one reads going back from the end of a text. Of the signs only a minus is
kept, and a missing magnitude is one. -/
def readBackwards (text : List Char) : List Char :=
  (if signBefore? text = some '-' then ['-'] else []) ++
    if magnitudeBefore text = [] then ['1'] else magnitudeBefore text

theorem isCoefficient_readBackwards (text : List Char) : IsCoefficient (readBackwards text) := by
  refine ⟨_, _, rfl, ?_, ?_, ?_⟩
  · split <;> simp
  · split
    · simp
    · assumption
  · intro c hc
    split at hc
    · obtain rfl := List.mem_singleton.mp hc
      decide
    · exact List.mem_rtakeWhile_imp hc

section Snoc

variable {text : List Char} {c : Char}

theorem magnitudeBefore_blank (h : isBlank c = true) :
    magnitudeBefore (text ++ [c]) = magnitudeBefore text := by
  simp [magnitudeBefore, h]

theorem signBefore_blank (h : isBlank c = true) : signBefore? (text ++ [c]) = signBefore? text := by
  simp [signBefore?, h]

theorem magnitudeBefore_other (hb : isBlank c = false) (hm : isMagnitude c = false) :
    magnitudeBefore (text ++ [c]) = [] := by
  simp [magnitudeBefore, hb, hm]

theorem signBefore_other (hb : isBlank c = false) (hm : isMagnitude c = false) :
    signBefore? (text ++ [c]) = some c := by
  simp [signBefore?, hb, hm]

theorem magnitudeBefore_magnitude (hm : isMagnitude c = true) :
    magnitudeBefore (text ++ [c]) = text.rtakeWhile isMagnitude ++ [c] := by
  simp [magnitudeBefore, magnitude_not_blank hm, hm]

theorem signBefore_magnitude (hm : isMagnitude c = true) :
    signBefore? (text ++ [c]) = ((text.rdropWhile isMagnitude).rdropWhile isBlank).getLast? := by
  simp [signBefore?, magnitude_not_blank hm, hm]

def Padded (text : List Char) : Prop := ∃ front d, text = front ++ [d] ∧ isBlank d = true

theorem padded_append (h : isBlank c = true) : Padded (text ++ [c]) := ⟨text, c, rfl, h⟩

theorem not_padded_append (h : isBlank c = false) : ¬ Padded (text ++ [c]) := by
  rintro ⟨front, d, htext, hd⟩
  obtain rfl : c = d := List.singleton_inj.mp (List.append_inj_right' htext rfl)
  rw [h] at hd
  cases hd

theorem rdropWhile_of_not_padded (h : ¬ Padded text) : text.rdropWhile isBlank = text := by
  rw [List.rdropWhile_eq_self_iff]
  intro hne hlast
  exact h ⟨_, _, (List.dropLast_append_getLast hne).symm, hlast⟩

/-- Behind a blank no magnitude is open. -/
theorem magnitude_of_padded (h : Padded text) :
    text.rtakeWhile isMagnitude = [] ∧ text.rdropWhile isMagnitude = text := by
  obtain ⟨front, d, rfl, hd⟩ := h
  have hnot : ¬ isMagnitude d = true := fun hm => by
    rw [magnitude_not_blank hm] at hd
    cases hd
  exact ⟨List.rtakeWhile_concat_neg _ _ _ hnot, List.rdropWhile_concat_neg _ _ _ hnot⟩

theorem rdropWhile_of_rtakeWhile_nil {p : Char → Bool} (h : text.rtakeWhile p = []) :
    text.rdropWhile p = text := by
  have hall := List.rdropWhile_append_rtakeWhile (p := p) (l := text)
  rwa [h, List.append_nil] at hall

theorem magnitudeBefore_open (hm : isMagnitude c = true)
    (hopen : ¬ (magnitudeBefore text ≠ [] ∧ Padded text)) :
    magnitudeBefore (text ++ [c]) = magnitudeBefore text ++ [c] := by
  rw [magnitudeBefore_magnitude hm]
  by_cases hpad : Padded text
  · have hnone : magnitudeBefore text = [] := by
      by_contra hsome
      exact hopen ⟨hsome, hpad⟩
    rw [(magnitude_of_padded hpad).1, hnone]
  · rw [magnitudeBefore, rdropWhile_of_not_padded hpad]

theorem signBefore_open (hm : isMagnitude c = true)
    (hopen : ¬ (magnitudeBefore text ≠ [] ∧ Padded text)) :
    signBefore? (text ++ [c]) = signBefore? text := by
  rw [signBefore_magnitude hm, signBefore?]
  by_cases hpad : Padded text
  · have hnone : magnitudeBefore text = [] := by
      by_contra hsome
      exact hopen ⟨hsome, hpad⟩
    rw [magnitudeBefore] at hnone
    rw [(magnitude_of_padded hpad).2, rdropWhile_of_rtakeWhile_nil hnone,
      List.rdropWhile_idempotent]
  · rw [rdropWhile_of_not_padded hpad]

/-- Behind a magnitude that a blank has closed another one starts, which has no sign. -/
theorem magnitudeBefore_closed (hm : isMagnitude c = true) (hpad : Padded text) :
    magnitudeBefore (text ++ [c]) = [c] := by
  rw [magnitudeBefore_magnitude hm, (magnitude_of_padded hpad).1, List.nil_append]

theorem signBefore_closed (hm : isMagnitude c = true) (hpad : Padded text)
    (hsome : magnitudeBefore text ≠ []) : signBefore? (text ++ [c]) ≠ some '-' := by
  rw [signBefore_magnitude hm, (magnitude_of_padded hpad).2]
  intro hlast
  obtain ⟨front, hfront⟩ := List.getLast?_eq_some_iff.mp hlast
  apply hsome
  rw [magnitudeBefore, hfront]
  exact List.rtakeWhile_concat_neg _ _ _ (by decide)

end Snoc

/-- The scan knows behind a text what one reads going back from its end. -/
structure Collected (text : List Char) (k : Coefficient) : Prop where
  magnitude : k.magnitude = magnitudeBefore text
  negative : k.negative = true ↔ signBefore? text = some '-'
  closed : k.closed = true ↔ magnitudeBefore text ≠ [] ∧ Padded text

theorem Collected.text {text : List Char} {k : Coefficient} (h : Collected text k) :
    k.text = readBackwards text := by
  rw [Coefficient.text, readBackwards, ← h.magnitude]
  congr 1
  by_cases hk : k.negative = true
  · rw [if_pos hk, if_pos (h.negative.mp hk)]
  · rw [if_neg hk, if_neg fun hsign => hk (h.negative.mpr hsign)]

theorem collected_start : Collected [] .start where
  magnitude := rfl
  negative := by decide
  closed := by simp [Coefficient.start, magnitudeBefore]

theorem Collected.next {text : List Char} {k : Coefficient} (h : Collected text k) (c : Char) :
    Collected (text ++ [c]) (k.next c) := by
  unfold Coefficient.next
  by_cases hplus : c = '+'
  · subst hplus
    rw [if_pos rfl]
    exact ⟨(magnitudeBefore_other (by decide) (by decide)).symm,
      by rw [signBefore_other (by decide) (by decide)]; decide,
      by rw [magnitudeBefore_other (by decide) (by decide)]; simp [Coefficient.start]⟩
  rw [if_neg hplus]
  by_cases hminus : c = '-'
  · subst hminus
    rw [if_pos rfl]
    exact ⟨(magnitudeBefore_other (by decide) (by decide)).symm,
      by rw [signBefore_other (by decide) (by decide)]; decide,
      by rw [magnitudeBefore_other (by decide) (by decide)]; simp [Coefficient.start]⟩
  rw [if_neg hminus]
  by_cases hblank : isBlank c = true
  · rw [if_pos hblank]
    refine ⟨?_, ?_, ?_⟩
    · rw [magnitudeBefore_blank hblank]
      exact h.magnitude
    · rw [signBefore_blank hblank]
      exact h.negative
    · rw [magnitudeBefore_blank hblank, ← h.magnitude]
      simp [padded_append hblank]
  rw [if_neg hblank]
  have hunpadded : ¬ Padded (text ++ [c]) := not_padded_append (by simpa using hblank)
  by_cases hm : isMagnitude c = true
  · rw [if_pos hm]
    by_cases hclosed : k.closed = true
    · rw [if_pos hclosed]
      obtain ⟨hsome, hpad⟩ := h.closed.mp hclosed
      refine ⟨(magnitudeBefore_closed hm hpad).symm, ?_, ?_⟩
      · simp [Coefficient.start, signBefore_closed hm hpad hsome]
      · simp [Coefficient.start, hunpadded]
    · rw [if_neg hclosed]
      have hopen : ¬ (magnitudeBefore text ≠ [] ∧ Padded text) := fun hc => hclosed (h.closed.mpr hc)
      refine ⟨?_, ?_, ?_⟩
      · rw [magnitudeBefore_open hm hopen, ← h.magnitude]
      · rw [signBefore_open hm hopen]
        exact h.negative
      · simp [hclosed, hunpadded]
  · rw [if_neg hm]
    have hnone : magnitudeBefore (text ++ [c]) = [] :=
      magnitudeBefore_other (by simpa using hblank) (by simpa using hm)
    refine ⟨hnone.symm, ?_, ?_⟩
    · rw [signBefore_other (by simpa using hblank) (by simpa using hm)]
      simpa [Coefficient.start] using hminus
    · simp [Coefficient.start, hunpadded]

theorem collected_foldl (text : List Char) :
    Collected text (text.foldl Coefficient.next .start) := by
  induction text using List.reverseRecOn with
  | nil => exact collected_start
  | append_singleton text c ih =>
    rw [List.foldl_append]
    exact ih.next c

theorem rdropWhile_append_all {p : Char → Bool} {text after : List Char}
    (h : ∀ c ∈ after, p c = true) : (text ++ after).rdropWhile p = text.rdropWhile p := by
  rw [List.rdropWhile, List.reverse_append, List.dropWhile_append_of_pos (by simpa using h),
    List.rdropWhile]

theorem rtakeWhile_append_all {p : Char → Bool} {text after : List Char}
    (h : ∀ c ∈ after, p c = true) : (text ++ after).rtakeWhile p = text.rtakeWhile p ++ after := by
  rw [List.rtakeWhile, List.reverse_append, List.takeWhile_append_of_pos (by simpa using h),
    List.reverse_append, List.reverse_reverse, List.rtakeWhile]

/-- A coefficient in its parts, behind a text of which nothing belongs to it. -/
structure Lead (before sign front magnitude back : List Char) : Prop where
  signed : sign = [] ∨ sign = ['+'] ∨ sign = ['-']
  spaced : ∀ c ∈ front, isBlank c = true
  typed : ∀ c ∈ magnitude, isMagnitude c = true
  padded : ∀ c ∈ back, isBlank c = true
  apart : sign = [] → ∀ rest c, before = rest ++ [c] →
    isBlank c = false ∧ c ≠ '-' ∧ (front = [] ∨ magnitude = [] → isMagnitude c = false)

namespace Lead

variable {before sign front magnitude back : List Char}

theorem not_padded (h : Lead before sign front magnitude back) : ¬ Padded (before ++ sign) := by
  rcases h.signed with rfl | rfl | rfl
  · rw [List.append_nil]
    rintro ⟨rest, c, hbefore, hc⟩
    rw [(h.apart rfl rest c hbefore).1] at hc
    cases hc
  · exact not_padded_append (by decide)
  · exact not_padded_append (by decide)

theorem getLast_eq_minus (h : Lead before sign front magnitude back) :
    (before ++ sign).getLast? = some '-' ↔ sign = ['-'] := by
  rcases h.signed with rfl | rfl | rfl
  · rw [List.append_nil, List.getLast?_eq_some_iff]
    constructor
    · rintro ⟨rest, hbefore⟩
      exact absurd rfl (h.apart rfl rest '-' hbefore).2.1
    · intro hsign
      cases hsign
  · simp
  · simp

theorem no_magnitude_before (h : Lead before sign front magnitude back)
    (hclosed : front = [] ∨ magnitude = []) : (before ++ sign).rtakeWhile isMagnitude = [] := by
  rcases h.signed with rfl | rfl | rfl
  · rw [List.append_nil]
    rcases List.eq_nil_or_concat' before with rfl | ⟨rest, c, rfl⟩
    · exact List.rtakeWhile_nil _
    · have hc := (h.apart rfl rest c rfl).2.2 hclosed
      exact List.rtakeWhile_concat_neg _ _ _ (by simp [hc])
  · exact List.rtakeWhile_concat_neg _ _ _ (by decide)
  · exact List.rtakeWhile_concat_neg _ _ _ (by decide)

/-- The magnitude reaches back to its blanks, to its sign or to where nothing belongs to it. -/
theorem magnitude_starts (h : Lead before sign front magnitude back) :
    (before ++ sign ++ if magnitude = [] then [] else front).rtakeWhile isMagnitude = [] := by
  by_cases hnone : magnitude = []
  · rw [if_pos hnone, List.append_nil]
    exact h.no_magnitude_before (Or.inr hnone)
  rw [if_neg hnone]
  rcases List.eq_nil_or_concat' front with rfl | ⟨rest, d, rfl⟩
  · rw [List.append_nil]
    exact h.no_magnitude_before (Or.inl rfl)
  · have hd : isBlank d = true := h.spaced d (by simp)
    rw [← List.append_assoc]
    exact (magnitude_of_padded (padded_append hd)).1

theorem rdropWhile_blank (h : Lead before sign front magnitude back) :
    (before ++ sign ++ front ++ magnitude ++ back).rdropWhile isBlank =
      before ++ sign ++ (if magnitude = [] then [] else front) ++ magnitude := by
  rw [rdropWhile_append_all h.padded]
  rcases List.eq_nil_or_concat' magnitude with rfl | ⟨rest, c, rfl⟩
  · rw [if_pos rfl, List.append_nil, List.append_nil, List.append_nil,
      rdropWhile_append_all h.spaced, rdropWhile_of_not_padded h.not_padded]
  · have hc : isBlank c = false := magnitude_not_blank (h.typed c (by simp))
    rw [if_neg (by simp), ← List.append_assoc]
    exact List.rdropWhile_concat_neg _ _ _ (by simp [hc])

theorem magnitudeBefore_eq (h : Lead before sign front magnitude back) :
    magnitudeBefore (before ++ sign ++ front ++ magnitude ++ back) = magnitude := by
  rw [magnitudeBefore, h.rdropWhile_blank, rtakeWhile_append_all h.typed, h.magnitude_starts,
    List.nil_append]

theorem signBefore_eq (h : Lead before sign front magnitude back) :
    signBefore? (before ++ sign ++ front ++ magnitude ++ back) = (before ++ sign).getLast? := by
  have hspaced : ∀ c ∈ (if magnitude = [] then [] else front), isBlank c = true := by
    split
    · simp
    · exact h.spaced
  rw [signBefore?, h.rdropWhile_blank, rdropWhile_append_all h.typed,
    rdropWhile_of_rtakeWhile_nil h.magnitude_starts, rdropWhile_append_all hspaced,
    rdropWhile_of_not_padded h.not_padded]

theorem readBackwards_eq (h : Lead before sign front magnitude back) :
    readBackwards (before ++ sign ++ front ++ magnitude ++ back) =
      (if sign = ['-'] then ['-'] else []) ++ if magnitude = [] then ['1'] else magnitude := by
  rw [readBackwards, h.signBefore_eq, h.magnitudeBefore_eq]
  simp only [h.getLast_eq_minus]

end Lead

end Tableaux.Expression
