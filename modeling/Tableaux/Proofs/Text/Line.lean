import Mathlib.Data.List.Basic
import Tableaux.Proofs.Text.Split

/-!
# Trimmed texts and lines

Trimming takes blanks away and nothing else, and blanks around a text do not change
what is left of it. The lines of a text that was joined from trimmed lines are those
lines, numbered from one.
-/
namespace Tableaux.Text

theorem trimEnd_split (text : List Char) :
    ∃ after, (∀ c ∈ after, isBlank c = true) ∧ text = trimEnd text ++ after := by
  refine ⟨(text.reverse.takeWhile isBlank).reverse, ?_, ?_⟩
  · intro c hc
    exact List.mem_takeWhile_imp (List.mem_reverse.mp hc)
  · rw [trimEnd, ← List.reverse_append, List.takeWhile_append_dropWhile, List.reverse_reverse]

theorem trim_split (text : List Char) :
    ∃ before after, (∀ c ∈ before, isBlank c = true) ∧ (∀ c ∈ after, isBlank c = true) ∧
      text = before ++ trim text ++ after := by
  obtain ⟨after, hafter, hend⟩ := trimEnd_split (trimStart text)
  refine ⟨text.takeWhile isBlank, after, fun c hc => List.mem_takeWhile_imp hc, hafter, ?_⟩
  rw [List.append_assoc, trim, ← hend, trimStart, List.takeWhile_append_dropWhile]

theorem trimEnd_append {text after : List Char} (h : ∀ c ∈ after, isBlank c = true) :
    trimEnd (text ++ after) = trimEnd text := by
  have hr : ∀ c ∈ after.reverse, isBlank c = true := fun c hc => h c (List.mem_reverse.mp hc)
  rw [trimEnd, List.reverse_append, List.dropWhile_append_of_pos hr, trimEnd]

theorem trim_pad {before after : List Char} (hb : ∀ c ∈ before, isBlank c = true)
    (ha : ∀ c ∈ after, isBlank c = true) (text : List Char) :
    trim (before ++ text ++ after) = trim text := by
  have hstart : trimStart (before ++ text ++ after) = trimStart (text ++ after) := by
    rw [List.append_assoc, trimStart, List.dropWhile_append_of_pos hb, trimStart]
  rw [trim, hstart, trimStart, List.dropWhile_append]
  by_cases ht : text.dropWhile isBlank = []
  · have hnil : after.dropWhile isBlank = [] := List.dropWhile_eq_nil_iff.mpr ha
    simp [ht, hnil, trim, trimStart]
  · rw [if_neg (by simpa using ht), trimEnd_append ha, trim, trimStart]

theorem trim_cons {c : Char} (h : isBlank c = true) (text : List Char) :
    trim (c :: text) = trim text := by
  rw [trim, trimStart, List.dropWhile_cons_of_pos h, trim, trimStart]

theorem trim_eq_self {text : List Char} (hfirst : ∀ c ∈ text.head?, isBlank c = false)
    (hlast : ∀ c ∈ text.getLast?, isBlank c = false) : trim text = text := by
  have hstart : trimStart text = text := by
    cases text with
    | nil => rfl
    | cons c rest => simp [trimStart, hfirst c rfl]
  rw [trim, hstart, trimEnd]
  rw [← List.head?_reverse] at hlast
  cases hr : text.reverse with
  | nil => simpa using hr.symm
  | cons c rest =>
    have hc : isBlank c = false := hlast c (by simp [hr])
    rw [List.dropWhile_cons_of_neg (by simp [hc]), ← hr, List.reverse_reverse]

theorem trim_trim (text : List Char) : trim (trim text) = trim text := by
  obtain ⟨before, after, hb, ha, ht⟩ := trim_split text
  calc trim (trim text) = trim (before ++ trim text ++ after) := (trim_pad hb ha _).symm
    _ = trim text := by rw [← ht]

/-- A text that is not blank, without blanks around it. -/
structure Tight (text : List Char) : Prop where
  filled : text ≠ []
  first : ∀ c ∈ text.head?, isBlank c = false
  last : ∀ c ∈ text.getLast?, isBlank c = false

theorem Tight.trim {text : List Char} (h : Tight text) : trim text = text :=
  trim_eq_self h.first h.last

theorem tight_token {token : List Char} (hne : token ≠ [])
    (h : ∀ c ∈ token, isBlank c = false) : Tight token where
  filled := hne
  first c hc := h c (List.mem_of_mem_head? hc)
  last c hc := h c (List.mem_of_mem_getLast? hc)

theorem tight_ends {text : List Char} (hfirst : text.head?.any (fun c => !isBlank c) = true)
    (hlast : text.getLast?.any (fun c => !isBlank c) = true) : Tight text where
  filled := by
    rintro rfl
    cases hfirst
  first c hc := by
    rw [Option.mem_def.mp hc] at hfirst
    simpa using hfirst
  last c hc := by
    rw [Option.mem_def.mp hc] at hlast
    simpa using hlast

theorem Tight.append {front back : List Char} (hf : Tight front) (hb : Tight back)
    (middle : List Char) : Tight (front ++ middle ++ back) where
  filled := by simp [hf.filled]
  first c hc := by
    rw [List.append_assoc, List.head?_append_of_ne_nil _ hf.filled] at hc
    exact hf.first c hc
  last c hc := by
    rw [List.getLast?_append_of_ne_nil _ hb.filled] at hc
    exact hb.last c hc

theorem Tight.join {parts : List (List Char)} (hne : parts ≠ []) (h : ∀ p ∈ parts, Tight p)
    (sep : List Char) : Tight (join sep parts) := by
  induction parts with
  | nil => exact absurd rfl hne
  | cons part others ih =>
    have hpart : Tight part := h part List.mem_cons_self
    by_cases hother : others = []
    · subst others
      exact hpart
    · rw [join_cons hother]
      exact hpart.append (ih hother fun p hp => h p (List.mem_cons_of_mem _ hp)) sep

theorem trim_pieces_join {sep : Char} (hsep : isBlank sep = false) (lead : List Char)
    (hlead : lead.all isBlank = true) {parts : List (List Char)} (hne : parts ≠ [])
    (h : ∀ p ∈ parts, sep ∉ p) :
    (pieces sep (lead ++ join [sep, ' '] parts)).map trim = parts.map trim := by
  obtain ⟨part, others, rfl⟩ := List.exists_cons_of_ne_nil hne
  have hpad : sep ∉ [' '] := by
    rw [List.mem_singleton]
    rintro rfl
    exact absurd hsep (by decide)
  have hblank : ∀ c ∈ lead, isBlank c = true := List.all_eq_true.mp hlead
  have hnot : sep ∉ lead := by
    intro hm
    rw [hblank sep hm] at hsep
    cases hsep
  have hpart : trim (lead ++ part) = trim part := by
    simpa using trim_pad hblank (fun c hc => absurd hc List.not_mem_nil) part
  rw [pieces_join hpad lead hnot part others h, List.map_cons, List.map_cons, List.map_map, hpart]
  exact congrArg (trim part :: ·) (List.map_congr_left fun p _ => trim_cons (by decide) p)

def numbered (first : Nat) (ls : List (List Char)) : List Line :=
  (ls.zipIdx first).map fun (l, number) => ⟨number, l⟩

theorem numbered_cons (first : Nat) (l : List Char) (ls : List (List Char)) :
    numbered first (l :: ls) = ⟨first, l⟩ :: numbered (first + 1) ls := rfl

theorem numbered_append (first : Nat) (ls others : List (List Char)) :
    numbered first (ls ++ others) = numbered first ls ++ numbered (first + ls.length) others := by
  rw [numbered, List.zipIdx_append, List.map_append, numbered, numbered]

theorem lines_join {ls : List (List Char)} (hbreak : ∀ l ∈ ls, '\n' ∉ l)
    (htight : ∀ l ∈ ls, Tight l) : lines (join ['\n'] ls) = numbered 1 ls := by
  by_cases hne : ls = []
  · subst ls; decide
  rw [lines, pieces_join_singleton hne hbreak, numbered, ← List.filterMap_eq_map]
  apply List.filterMap_congr
  rintro ⟨l, number⟩ hl
  obtain ⟨-, -, hget⟩ := List.mem_zipIdx hl
  have ht : Tight l := htight l (by rw [hget]; exact List.getElem_mem _)
  simp [ht.trim, ht.filled]

/-- A line has the number that its piece has in the text. -/
theorem mem_lines_iff (text : List Char) (line : Line) :
    line ∈ lines text ↔ ∃ i piece, (pieces '\n' text)[i]? = some piece ∧ trim piece ≠ [] ∧
      line = ⟨i + 1, trim piece⟩ := by
  simp only [lines, List.mem_filterMap, Prod.exists, List.mk_mem_zipIdx_iff_le_and_getElem?_sub]
  constructor
  · rintro ⟨piece, number, ⟨hpos, hpiece⟩, hline⟩
    split at hline
    · cases hline
    · rename_i hfilled
      obtain rfl := Option.some.inj hline
      exact ⟨number - 1, piece, hpiece, hfilled, by rw [Nat.sub_add_cancel hpos]⟩
  · rintro ⟨i, piece, hpiece, hfilled, rfl⟩
    exact ⟨piece, i + 1, ⟨Nat.le_add_left 1 i, hpiece⟩, if_neg hfilled⟩

theorem lines_ascend (text : List Char) :
    (lines text).Pairwise fun a b => a.number < b.number := by
  have hnumbers : ((pieces '\n' text).zipIdx 1).Pairwise fun a b => a.2 < b.2 := by
    rw [← List.pairwise_map (f := fun e : List Char × Nat => e.2), List.zipIdx_map_snd]
    exact List.pairwise_lt_range'
  rw [lines, List.pairwise_filterMap]
  refine hnumbers.imp ?_
  rintro ⟨piece, i⟩ ⟨other, j⟩ hij a ha b hb
  dsimp only at ha hb
  split at ha
  · cases ha
  split at hb
  · cases hb
  obtain rfl := Option.some.inj ha
  obtain rfl := Option.some.inj hb
  exact hij

end Tableaux.Text
