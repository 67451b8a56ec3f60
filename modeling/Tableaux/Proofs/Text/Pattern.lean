import Mathlib.Data.List.Forall2

/-!
# Patterns and their matches

A pattern is a row of repetitions. Backtracking matches it at the start of a text: each repetition
takes as many characters as it can, and gives some back if those behind it do not match
otherwise. The matches in a text are found one behind the other, each at the leftmost place.
-/
namespace Tableaux.Text

/-- Characters of one kind in a row, at least and at most so many. -/
structure Repetition where
  holds : Char → Bool
  least : Nat
  most : Option Nat

namespace Repetition

def Fits (r : Repetition) (part : List Char) : Prop :=
  (∀ c ∈ part, r.holds c = true) ∧ r.least ≤ part.length ∧ ∀ n ∈ r.most, part.length ≤ n

instance (r : Repetition) (part : List Char) : Decidable (r.Fits part) :=
  decidable_of_iff
    (part.all r.holds = true ∧ r.least ≤ part.length ∧ r.most.all (part.length ≤ ·) = true)
    (by simp only [Fits, List.all_eq_true, Option.all_eq_true, decide_eq_true_eq, Option.mem_def])

def lengths (r : Repetition) (text : List Char) : List Nat :=
  (List.range (text.length + 1)).reverse.filter fun n => r.Fits (text.take n)

theorem mem_lengths {r : Repetition} {text : List Char} {n : Nat} :
    n ∈ r.lengths text ↔ n ≤ text.length ∧ r.Fits (text.take n) := by
  rw [lengths, List.mem_filter, List.mem_reverse, List.mem_range, decide_eq_true_eq, Nat.lt_succ_iff]

theorem lengths_descend (r : Repetition) (text : List Char) :
    (r.lengths text).Pairwise (· > ·) :=
  (List.pairwise_reverse.mpr List.pairwise_lt_range).filter _

end Repetition

abbrev Pattern := List Repetition

variable {pattern : Pattern} {text : List Char} {parts : List (List Char)}

/-- The first match at the start of a text that backtracking finds, one part for each
repetition. -/
def matchStart? : Pattern → List Char → Option (List (List Char))
  | [], _ => some []
  | r :: others, text =>
    (r.lengths text).findSome? fun n => (matchStart? others (text.drop n)).map (text.take n :: ·)

/-- The matches of a pattern behind so many characters of a text, from left to right. The pattern
is one that no empty text matches. -/
def matchesAfter (pattern : Pattern) : Nat → List Char → List (List (List Char))
  | _, [] => []
  | n + 1, _ :: rest => matchesAfter pattern n rest
  | 0, c :: rest =>
    match matchStart? pattern (c :: rest) with
    | some parts => parts :: matchesAfter pattern (parts.flatten.length - 1) rest
    | none => matchesAfter pattern 0 rest

def allMatches (pattern : Pattern) (text : List Char) : List (List (List Char)) :=
  matchesAfter pattern 0 text

/-- The first repetition takes a part behind which the others match, and no longer one would do. -/
theorem matchStart_cons {r : Repetition} (h : matchStart? (r :: pattern) text = some parts) :
    ∃ part rest others, text = part ++ rest ∧ parts = part :: others ∧ r.Fits part ∧
      matchStart? pattern rest = some others ∧
      ∀ longer after, text = longer ++ after → part.length < longer.length → r.Fits longer →
        matchStart? pattern after = none := by
  rw [matchStart?, List.findSome?_eq_some_iff] at h
  obtain ⟨before, n, behind, hlengths, hn, hbefore⟩ := h
  obtain ⟨others, hothers, rfl⟩ := Option.map_eq_some_iff.mp hn
  have hmem : n ∈ r.lengths text := by rw [hlengths]; simp
  obtain ⟨hle, hfits⟩ := Repetition.mem_lengths.mp hmem
  refine ⟨text.take n, text.drop n, others, (List.take_append_drop n text).symm, rfl, hfits,
    hothers, ?_⟩
  intro longer after htext hlonger hfit
  rw [List.length_take_of_le hle] at hlonger
  have htried : longer.length ∈ r.lengths text := by
    rw [Repetition.mem_lengths, htext, List.take_left]
    exact ⟨by simp, hfit⟩
  have hdescend := r.lengths_descend text
  rw [hlengths, List.pairwise_append, List.pairwise_cons] at hdescend
  rw [hlengths] at htried
  rcases List.mem_append.mp htried with hin | hin
  · have hnone := hbefore _ hin
    rw [Option.map_eq_none_iff, htext, List.drop_left] at hnone
    exact hnone
  · rcases List.mem_cons.mp hin with heq | hin
    · omega
    · have hshorter := hdescend.2.1.1 _ hin
      omega

theorem fits_of_matchStart (h : matchStart? pattern text = some parts) :
    List.Forall₂ Repetition.Fits pattern parts ∧ parts.flatten <+: text := by
  induction pattern generalizing text parts with
  | nil =>
    rw [matchStart?] at h
    obtain rfl := Option.some.inj h
    exact ⟨.nil, List.nil_prefix⟩
  | cons r pattern ih =>
    obtain ⟨part, rest, others, rfl, rfl, hfits, hothers, -⟩ := matchStart_cons h
    obtain ⟨hall, hprefix⟩ := ih hothers
    exact ⟨.cons hfits hall, (List.prefix_append_right_inj part).mpr hprefix⟩

theorem matchStart_ne_none (h : List.Forall₂ Repetition.Fits pattern parts) (rest : List Char) :
    matchStart? pattern (parts.flatten ++ rest) ≠ none := by
  induction h with
  | nil => exact fun hnone => by cases hnone
  | @cons r part pattern others hfits _ ih =>
    rw [List.flatten_cons, List.append_assoc, matchStart?]
    intro hnone
    have htried : part.length ∈ r.lengths (part ++ (others.flatten ++ rest)) := by
      rw [Repetition.mem_lengths, List.take_left]
      exact ⟨by simp, hfits⟩
    have hother := List.findSome?_eq_none_iff.mp hnone _ htried
    rw [Option.map_eq_none_iff, List.drop_left] at hother
    exact ih hother

/-- Nothing gives characters of the last repetition back, so it takes all it can. -/
theorem matchStart_last {last : Repetition} (h : matchStart? (pattern ++ [last]) text = some parts) :
    ∃ front part, parts = front ++ [part] ∧ ∀ longer after,
      text = front.flatten ++ longer ++ after → last.Fits longer → longer.length ≤ part.length := by
  induction pattern generalizing text parts with
  | nil =>
    obtain ⟨part, rest, others, rfl, rfl, -, hothers, hlongest⟩ := matchStart_cons h
    rw [matchStart?] at hothers
    obtain rfl := Option.some.inj hothers
    refine ⟨[], part, rfl, ?_⟩
    intro longer after htext hfits
    by_contra hlonger
    have hnone := hlongest longer after htext (by omega) hfits
    cases hnone
  | cons r pattern ih =>
    obtain ⟨first, rest, others, rfl, rfl, -, hothers, -⟩ := matchStart_cons h
    obtain ⟨front, part, rfl, hlongest⟩ := ih hothers
    refine ⟨first :: front, part, rfl, ?_⟩
    intro longer after htext hfits
    rw [List.flatten_cons, List.append_assoc, List.append_assoc, List.append_cancel_left_eq,
      ← List.append_assoc] at htext
    exact hlongest longer after htext hfits

theorem matchesAfter_skip (n : Nat) (text : List Char) :
    matchesAfter pattern n text = allMatches pattern (text.drop n) := by
  induction text generalizing n with
  | nil => rw [List.drop_nil, allMatches, matchesAfter, matchesAfter]
  | cons c rest ih =>
    cases n with
    | zero => rfl
    | succ n => rw [matchesAfter, ih, List.drop_succ_cons]

theorem allMatches_cases (hfilled : ∀ text parts, matchStart? pattern text = some parts →
      parts.flatten ≠ []) (text : List Char) :
    (allMatches pattern text = [] ∧ ∀ i, matchStart? pattern (text.drop i) = none) ∨
    ∃ before parts rest, text = before ++ (parts.flatten ++ rest) ∧
      (∀ i < before.length, matchStart? pattern (text.drop i) = none) ∧
      matchStart? pattern (parts.flatten ++ rest) = some parts ∧
      allMatches pattern text = parts :: allMatches pattern rest := by
  induction text with
  | nil =>
    refine Or.inl ⟨rfl, fun i => ?_⟩
    rw [List.drop_nil]
    cases h : matchStart? pattern [] with
    | none => rfl
    | some parts =>
      exact absurd (List.prefix_nil.mp (fits_of_matchStart h).2) (hfilled [] parts h)
  | cons c text ih =>
    cases h : matchStart? pattern (c :: text) with
    | some parts =>
      obtain ⟨rest, hrest⟩ := (fits_of_matchStart h).2
      obtain ⟨d, others, hparts⟩ := List.exists_cons_of_ne_nil (hfilled _ parts h)
      have hdrop : text.drop (parts.flatten.length - 1) = rest := by
        rw [hparts, List.cons_append, List.cons.injEq] at hrest
        rw [hparts, ← hrest.2]
        exact List.drop_left
      refine Or.inr ⟨[], parts, rest, hrest.symm, by simp, hrest ▸ h, ?_⟩
      rw [allMatches, matchesAfter, h]
      dsimp only
      rw [matchesAfter_skip, hdrop]
    | none =>
      have hnext : allMatches pattern (c :: text) = allMatches pattern text := by
        rw [allMatches, matchesAfter, h]
        rfl
      rcases ih with ⟨hnil, hnone⟩ | ⟨before, parts, rest, rfl, hbefore, hmatch, hothers⟩
      · refine Or.inl ⟨hnext.trans hnil, fun i => ?_⟩
        cases i with
        | zero => exact h
        | succ i => exact hnone i
      · refine Or.inr ⟨c :: before, parts, rest, rfl, fun i hi => ?_, hmatch, hnext.trans hothers⟩
        cases i with
        | zero => exact h
        | succ i => exact hbefore i (Nat.lt_of_succ_lt_succ hi)

end Tableaux.Text
