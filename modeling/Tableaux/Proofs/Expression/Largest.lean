import Tableaux.Proofs.Expression.Pattern

/-!
# The largest variable

Variables are numbered by a scan that looks at nothing but an `x` and its digits. It meets the same
variables as the scan for terms, since no coefficient reaches over a variable. So the largest
variable of a text is that of its terms, and that of the parts that the text is cut into.
-/
namespace Tableaux.Expression

open Decimal (isDigit)
open Text (Pattern Repetition allMatches matchStart?)

variable {before digits rest text : List Char}

def variablePattern : Pattern := [⟨(· == 'x'), 1, some 1⟩, ⟨isDigit, 1, none⟩]

def matchedNumber? : List (List Char) → Option Nat
  | [_, digits] => variableNumber? digits
  | _ => none

def matchedNumbers (text : List Char) : List Nat :=
  (allMatches variablePattern text).filterMap matchedNumber?

theorem matchStart_variable {parts : List (List Char)}
    (h : matchStart? variablePattern text = some parts) :
    ∃ digits rest, parts = [['x'], digits] ∧ text = 'x' :: digits ++ rest ∧ Numbered digits rest := by
  obtain ⟨hfits, rest, rfl⟩ := Text.fits_of_matchStart h
  simp only [variablePattern, List.forall₂_cons_left_iff, List.forall₂_nil_left_iff, fits_x,
    fits_number] at hfits
  obtain ⟨_, _, rfl, ⟨digits, _, ⟨hfilled, hdigits⟩, rfl, rfl⟩, rfl⟩ := hfits
  have hnumbered : Numbered digits rest :=
    numbered_of_match variablePattern.dropLast [['x']]
      (fits_number.mpr ⟨hfilled, hdigits⟩) (by simpa [variablePattern] using h)
  exact ⟨digits, rest, rfl, by simp, hnumbered⟩

theorem matchStart_of_numbered (h : Numbered digits rest) :
    matchStart? variablePattern ('x' :: digits ++ rest) ≠ none := by
  have hfits : List.Forall₂ Repetition.Fits variablePattern [['x'], digits] :=
    .cons (fits_x.mpr rfl) (.cons (fits_number.mpr ⟨h.filled, h.digit⟩) .nil)
  simpa using Text.matchStart_ne_none hfits rest

theorem not_variableAt_of_unmatched {i : Nat} (h : matchStart? variablePattern (text.drop i) = none) :
    ¬ VariableAt text i := by
  intro hvariable
  obtain ⟨digits, rest, hdrop, hdigits⟩ := hvariable.numbered
  rw [hdrop] at h
  exact matchStart_of_numbered hdigits h

theorem matchedNumbers_eq (text : List Char) : matchedNumbers text = variableNumbers text := by
  have hfilled : ∀ text parts, matchStart? variablePattern text = some parts → parts.flatten ≠ [] := by
    intro text parts h
    obtain ⟨digits, rest, rfl, -, -⟩ := matchStart_variable h
    simp
  -- Behind its first match the text is shorter, and scan and pattern both start anew.
  induction hn : text.length using Nat.strongRecOn generalizing text with
  | _ n ih =>
    rcases Text.allMatches_cases hfilled text with
      ⟨hnil, hnone⟩ | ⟨before, parts, rest, rfl, hleft, hmatch, hothers⟩
    · have hgap : Gap text := fun i => not_variableAt_of_unmatched (hnone i)
      rw [matchedNumbers, hnil, ← numbers_terms, terms_of_gap hgap]
      rfl
    · obtain ⟨digits, after, rfl, hafter, hdigits⟩ := matchStart_variable hmatch
      obtain rfl : rest = after := by simpa using hafter
      have hsplit : before ++ ([['x'], digits].flatten ++ rest) =
          before ++ 'x' :: digits ++ rest := by simp
      rw [hsplit] at hleft hothers hn ⊢
      have hgap : Gap before := by
        intro i hi
        have hlength : i < before.length := (List.getElem?_eq_some_iff.mp hi.1).1
        have hx : ∀ c ∈ ('x' :: digits ++ rest).head?, isDigit c = false :=
          head_not_digit (by decide) _
        have hvariable := (variableAt_extend hx hlength).mpr hi
        rw [← List.append_assoc] at hvariable
        exact not_variableAt_of_unmatched (hleft i hlength) hvariable
      have hshorter : rest.length < n := by
        rw [← hn]
        simp only [List.length_append, List.length_cons]
        omega
      have hfirst : (termOf? before digits).toList.map Term.number =
          (variableNumber? digits).toList := by
        rw [termOf?]
        cases variableNumber? digits <;> rfl
      rw [matchedNumbers, hothers, List.filterMap_eq_flatMap_toList, List.flatMap_cons,
        ← List.filterMap_eq_flatMap_toList, ← matchedNumbers, ih rest.length hshorter rest rfl,
        ← numbers_terms, ← numbers_terms, terms_cut hgap hdigits, List.map_append, hfirst]
      rfl

/-- Where lines, labels and sides of a constraint are cut. -/
def cuts : List (List Char) := [['\n'], ['\r', '\n'], [':'], ['=']]

theorem variableNumbers_parted {cut : List Char} (h : cut ∈ cuts) (before after : List Char) :
    variableNumbers (before ++ cut ++ after) = variableNumbers before ++ variableNumbers after := by
  have hcut : ∃ c others, cut = c :: others ∧ Separates c ∧ 'x' ∉ others := by
    simp only [cuts, List.mem_cons, List.not_mem_nil, or_false] at h
    rcases h with rfl | rfl | rfl | rfl <;> exact ⟨_, _, rfl, by decide, by decide⟩
  obtain ⟨c, others, rfl, hseparates, hothers⟩ := hcut
  rw [List.append_assoc, List.cons_append, variableNumbers_cut hseparates,
    variableNumbers_skip hothers]

theorem max_append (xs ys : List Nat) : (xs ++ ys).max? = max xs.max? ys.max? := by
  induction xs with
  | nil => rw [List.nil_append, List.max?_nil, Option.max_none_left]
  | cons x xs ih =>
    rw [List.cons_append, List.max?_cons, List.max?_cons, ih]
    cases xs.max? <;> cases ys.max? <;> simp [Nat.max_assoc]

theorem largestVariable_parted {cut : List Char} (h : cut ∈ cuts) (before after : List Char) :
    largestVariable? (before ++ cut ++ after) =
      max (largestVariable? before) (largestVariable? after) := by
  rw [largestVariable?, variableNumbers_parted h, max_append, largestVariable?, largestVariable?]

/-- The scan for variables and the scan for terms agree on the largest number, also on the parts
that a text is cut into. -/
theorem scanners_agree :
    (∀ text, matchedNumbers text = (matchedTerms text).map Term.number) ∧
    (∀ text, largestVariable? text = (matchedNumbers text).max?) ∧
    (∀ text n, largestVariable? text = some n ↔
      (∃ t ∈ terms text, t.number = n) ∧ ∀ t ∈ terms text, t.number ≤ n) ∧
    (∀ text, largestVariable? text = none ↔ terms text = []) ∧
    ∀ cut ∈ cuts, ∀ before after,
      largestVariable? before ≤ largestVariable? (before ++ cut ++ after) ∧
      largestVariable? after ≤ largestVariable? (before ++ cut ++ after) ∧
      max (largestVariable? before) (largestVariable? after) =
        largestVariable? (before ++ cut ++ after) := by
  refine ⟨fun text => ?_, fun text => ?_, fun text n => ?_, fun text => ?_,
    fun cut hcut before after => ?_⟩
  · rw [matchedNumbers_eq, matchedTerms_eq, numbers_terms]
  · rw [matchedNumbers_eq, largestVariable?]
  · rw [largestVariable?, List.max?_eq_some_iff, ← numbers_terms, List.mem_map, List.forall_mem_map]
  · rw [largestVariable?, List.max?_eq_none_iff, ← numbers_terms, List.map_eq_nil_iff]
  · rw [largestVariable_parted hcut]
    exact ⟨Option.left_le_max Nat.le_refl Nat.le_max_left,
      Option.right_le_max Nat.le_refl Nat.le_max_right, rfl⟩

theorem relation_keeps_largest :
    ['='] ∈ cuts ∧
      largestVariable? "c1: 2x3 - Mx12 ".toList ≤ largestVariable? "c1: 2x3 - Mx12 = x7".toList ∧
      largestVariable? " x7".toList ≤ largestVariable? "c1: 2x3 - Mx12 = x7".toList ∧
      max (largestVariable? "c1: 2x3 - Mx12 ".toList) (largestVariable? " x7".toList) = some 12 ∧
      (∃ t ∈ terms "c1: 2x3 - Mx12 = x7".toList, t.number = 12) := by
  obtain ⟨-, -, hlargest, -, hcut⟩ := scanners_agree
  have hwhole : largestVariable? "c1: 2x3 - Mx12 = x7".toList = some 12 := by decide
  obtain ⟨hbefore, hafter, hmax⟩ := hcut ['='] (by decide) "c1: 2x3 - Mx12 ".toList " x7".toList
  exact ⟨by decide, hbefore, hafter, hmax.trans hwhole, ((hlargest _ 12).mp hwhole).1⟩

end Tableaux.Expression
