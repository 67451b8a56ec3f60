import Mathlib.Tactic.Common
import Tableaux.Proofs.Text.Pattern

/-!
# Forms with alternatives

A form is a repetition, a form behind another, or either of two forms. Backtracking tries what fits
at the start of a text in an order: long repetitions first, and the first of two forms first. What
it comes to first need not be the longest part that fits.
-/
namespace Tableaux.Text

inductive Form where
  | repeated (r : Repetition)
  | behind (front back : Form)
  | either (first second : Form)

namespace Form

variable {f g : Form} {r : Repetition} {text part rest : List Char} {n : Nat}

def Fits : Form → List Char → Prop
  | repeated r, part => r.Fits part
  | behind f g, part => ∃ front back, part = front ++ back ∧ f.Fits front ∧ g.Fits back
  | either f g, part => f.Fits part ∨ g.Fits part

/-- The lengths of what fits at the start of a text, in the order in which they are tried. -/
def lengths : Form → List Char → List Nat
  | repeated r, text => r.lengths text
  | behind f g, text => (f.lengths text).flatMap fun n => (g.lengths (text.drop n)).map (n + ·)
  | either f g, text => f.lengths text ++ g.lengths text

/-- What backtracking finds at the start of a text. -/
def first? (f : Form) (text : List Char) : Option (List Char) :=
  (f.lengths text).head?.map text.take

def empty : Form := repeated ⟨fun _ => false, 0, none⟩

def char (c : Char) : Form := repeated ⟨(· == c), 1, some 1⟩

def word : List Char → Form
  | [] => empty
  | c :: rest => behind (char c) (word rest)

def optional (f : Form) : Form := either f empty

theorem fits_empty : empty.Fits part ↔ part = [] := by
  simp [empty, Fits, Repetition.Fits, List.eq_nil_iff_forall_not_mem]

theorem fits_char {c : Char} : (char c).Fits part ↔ part = [c] := by
  constructor
  · rintro ⟨hall, hleast, hmost⟩
    match part with
    | [d] => simpa using hall
    | d :: e :: others => simpa using hmost 1 rfl
  · rintro rfl
    exact ⟨by simp, by simp, by simp⟩

theorem fits_word {letters : List Char} : (word letters).Fits part ↔ part = letters := by
  induction letters generalizing part with
  | nil => exact fits_empty
  | cons c letters ih =>
    simp only [word, Fits, fits_char, ih]
    constructor
    · rintro ⟨front, back, rfl, rfl, rfl⟩
      rfl
    · rintro rfl
      exact ⟨[c], letters, rfl, rfl, rfl⟩

theorem fits_optional : f.optional.Fits part ↔ f.Fits part ∨ part = [] := by
  rw [optional, Fits, fits_empty]

theorem mem_lengths :
    n ∈ f.lengths text ↔ ∃ part rest, text = part ++ rest ∧ part.length = n ∧ f.Fits part := by
  induction f generalizing text n with
  | repeated r =>
    rw [lengths, Repetition.mem_lengths]
    constructor
    · rintro ⟨hle, hfits⟩
      exact ⟨text.take n, text.drop n, (List.take_append_drop n text).symm,
        List.length_take_of_le hle, hfits⟩
    · rintro ⟨part, rest, rfl, rfl, hfits⟩
      rw [List.take_left]
      exact ⟨by simp, hfits⟩
  | behind f g ihf ihg =>
    simp only [lengths, List.mem_flatMap, List.mem_map, ihf, ihg]
    constructor
    · rintro ⟨_, ⟨front, rest, rfl, rfl, hfront⟩, _, ⟨back, after, hrest, rfl, hback⟩, rfl⟩
      rw [List.drop_left] at hrest
      subst hrest
      exact ⟨front ++ back, after, by simp, by simp, front, back, rfl, hfront, hback⟩
    · rintro ⟨_, rest, rfl, rfl, front, back, rfl, hfront, hback⟩
      refine ⟨front.length, ⟨front, back ++ rest, by simp, rfl, hfront⟩, back.length,
        ⟨back, rest, ?_, rfl, hback⟩, by simp⟩
      rw [List.append_assoc, List.drop_left]
  | either f g ihf ihg =>
    simp only [lengths, List.mem_append, ihf, ihg]
    constructor
    · rintro (⟨part, rest, htext, hlength, hfits⟩ | ⟨part, rest, htext, hlength, hfits⟩)
      · exact ⟨part, rest, htext, hlength, Or.inl hfits⟩
      · exact ⟨part, rest, htext, hlength, Or.inr hfits⟩
    · rintro ⟨part, rest, htext, hlength, hfits | hfits⟩
      · exact Or.inl ⟨part, rest, htext, hlength, hfits⟩
      · exact Or.inr ⟨part, rest, htext, hlength, hfits⟩

theorem lengths_eq_nil : f.lengths text = [] ↔ ∀ part, part <+: text → ¬ f.Fits part := by
  rw [List.eq_nil_iff_forall_not_mem]
  constructor
  · rintro hnone part ⟨rest, rfl⟩ hfits
    exact hnone _ (mem_lengths.mpr ⟨part, rest, rfl, rfl, hfits⟩)
  · intro hnone n hn
    obtain ⟨part, rest, rfl, -, hfits⟩ := mem_lengths.mp hn
    exact hnone part (List.prefix_append part rest) hfits

/-- A part at the start of a text fits, and nothing longer does. -/
structure Longest (f : Form) (text part : List Char) : Prop where
  fits : f.Fits part
  starts : part <+: text
  most : ∀ other, other <+: text → f.Fits other → other.length ≤ part.length

theorem Longest.unique {other : List Char} (h : f.Longest text part)
    (ho : f.Longest text other) : part = other := by
  have hlength : part.length = other.length :=
    Nat.le_antisymm (ho.most part h.starts h.fits) (h.most other ho.starts ho.fits)
  exact (List.prefix_of_prefix_length_le h.starts ho.starts
    (Nat.le_of_eq hlength)).eq_of_length hlength

/-- Backtracking comes to a part before anything else. -/
def Finds (f : Form) (part rest : List Char) : Prop :=
  (f.lengths (part ++ rest)).head? = some part.length

theorem Finds.first (h : f.Finds part rest) : f.first? (part ++ rest) = some part := by
  rw [first?, h, Option.map_some, List.take_left]

theorem Finds.fits (h : f.Finds part rest) : f.Fits part := by
  obtain ⟨others, hothers⟩ := List.head?_eq_some_iff.mp h
  obtain ⟨other, after, htext, hlength, hfits⟩ :=
    mem_lengths.mp (hothers ▸ List.mem_cons_self : part.length ∈ f.lengths (part ++ rest))
  rwa [(List.append_inj htext hlength.symm).1]

theorem first_eq_none (h : ∀ part, part <+: text → ¬ f.Fits part) : f.first? text = none := by
  rw [first?, lengths_eq_nil.mpr h]
  rfl

theorem finds_repeated (h : (repeated r).Longest (part ++ rest) part) :
    (repeated r).Finds part rest := by
  have htried : part.length ∈ r.lengths (part ++ rest) :=
    mem_lengths.mpr ⟨part, rest, rfl, rfl, h.fits⟩
  have hdescend := r.lengths_descend (part ++ rest)
  unfold Finds lengths
  cases hlengths : r.lengths (part ++ rest) with
  | nil => rw [hlengths] at htried; cases htried
  | cons n others =>
    rw [hlengths, List.pairwise_cons] at hdescend
    rw [hlengths, List.mem_cons] at htried
    have hn : n ∈ (repeated r).lengths (part ++ rest) := by
      rw [lengths, hlengths]
      exact List.mem_cons_self
    obtain ⟨other, after, htext, rfl, hfits⟩ := mem_lengths.mp hn
    have hle := h.most other (htext ▸ List.prefix_append other after) hfits
    rcases htried with heq | hlater
    · rw [List.head?_cons, heq]
    · have hlt := hdescend.1 _ hlater
      omega

theorem finds_behind {front back : List Char} (hf : f.Finds front (back ++ rest))
    (hg : g.Finds back rest) : (behind f g).Finds (front ++ back) rest := by
  unfold Finds at hf hg ⊢
  rw [lengths, List.head?_flatMap, List.append_assoc]
  obtain ⟨others, hothers⟩ := List.head?_eq_some_iff.mp hf
  rw [hothers, List.findSome?_cons, List.drop_left, List.head?_map, hg]
  simp

theorem finds_first (hf : f.Finds part rest) : (either f g).Finds part rest := by
  unfold Finds at hf ⊢
  rw [lengths, List.head?_append, hf, Option.some_or]

theorem finds_second (hf : ∀ other, other <+: part ++ rest → ¬ f.Fits other)
    (hg : g.Finds part rest) : (either f g).Finds part rest := by
  unfold Finds at hg ⊢
  rw [lengths, lengths_eq_nil.mpr hf, List.nil_append, hg]

/-- A repetition that ends where its characters end, or that is as long as it may be. -/
theorem longest_repeated (hfits : r.Fits part)
    (hend : (∀ c ∈ rest.head?, r.holds c = false) ∨ r.most = some part.length) :
    (repeated r).Longest (part ++ rest) part := by
  refine ⟨hfits, List.prefix_append part rest, ?_⟩
  rintro other hother ⟨hholds, -, hmost⟩
  rcases hend with hend | hend
  · by_contra hlonger
    obtain ⟨more, rfl⟩ := List.prefix_of_prefix_length_le (List.prefix_append part rest) hother
      (by omega)
    obtain ⟨c, more, rfl⟩ :=
      List.exists_cons_of_ne_nil (fun hnil : more = [] => by simp [hnil] at hlonger)
    obtain ⟨after, hafter⟩ := (List.prefix_append_right_inj part).mp hother
    have hhead : c ∈ rest.head? := by rw [← hafter]; rfl
    have hc : r.holds c = true := hholds c (by simp)
    rw [hend c hhead] at hc
    cases hc
  · exact hmost _ hend

theorem finds_empty (rest : List Char) : empty.Finds [] rest :=
  finds_repeated (longest_repeated (fits_empty.mpr rfl) (Or.inl fun _ _ => rfl))

theorem finds_char (c : Char) (rest : List Char) : (char c).Finds [c] rest :=
  finds_repeated (longest_repeated (fits_char.mpr rfl) (Or.inr rfl))

theorem finds_word (letters rest : List Char) : (word letters).Finds letters rest := by
  induction letters with
  | nil => exact finds_empty rest
  | cons c letters ih => exact finds_behind (finds_char c (letters ++ rest)) ih

end Form
end Tableaux.Text
