import Mathlib.Data.List.Induction
import Tableaux.Row

/-!
# Entries of a dense row

The entry of a column is the last one given for it, or else the default.
-/
namespace Tableaux

variable {α κ : Type} [DecidableEq κ]

theorem filterMap_id_some {β : Type} (f : β → α) (xs : List β) :
    (xs.map fun x => some (f x)).filterMap id = xs.map f := by
  rw [List.filterMap_map, ← List.filterMap_eq_map]
  rfl

/-- The last entry that is given for a key, such as a column. -/
def lastGiven? (entries : List (κ × α)) (key : κ) : Option α :=
  ((entries.filter (·.1 = key)).getLast?).map (·.2)

theorem lastGiven_append (entries : List (κ × α)) (e : κ × α) (key : κ) :
    lastGiven? (entries ++ [e]) key = if e.1 = key then some e.2 else lastGiven? entries key := by
  by_cases he : e.1 = key
  · simp [lastGiven?, List.filter_append, he]
  · simp [lastGiven?, List.filter_append, he]

theorem mem_of_lastGiven {entries : List (κ × α)} {key : κ} {a : α}
    (h : lastGiven? entries key = some a) : (key, a) ∈ entries := by
  obtain ⟨e, he, rfl⟩ := Option.map_eq_some_iff.mp h
  have hm := List.mem_filter.mp (List.mem_of_getLast? he)
  have hc : e.1 = key := by simpa using hm.2
  rw [← hc]
  exact hm.1

theorem lastGiven_of_last {entries : List (Nat × α)} {i column : Nat} {a : α}
    (h : entries[i]? = some (column, a))
    (hlast : ∀ j e, i < j → entries[j]? = some e → e.1 ≠ column) :
    lastGiven? entries column = some a := by
  induction entries using List.reverseRecOn with
  | nil => cases h
  | append_singleton entries e ih =>
    rw [lastGiven_append]
    by_cases hi : i < entries.length
    · have hother : e.1 ≠ column :=
        hlast entries.length e hi (by rw [List.getElem?_concat_length])
      rw [if_neg hother]
      apply ih
      · rwa [List.getElem?_append_left hi] at h
      · intro j f hij hj
        have hlt : j < entries.length := (List.getElem?_eq_some_iff.mp hj).1
        exact hlast j f hij (by rw [List.getElem?_append_left hlt, hj])
    · rw [List.getElem?_append_right (by omega), List.getElem?_singleton] at h
      split at h
      · obtain rfl := Option.some.inj h
        rw [if_pos rfl]
      · cases h

/-- The order of the entries only matters for a key that several of them are given for. -/
theorem lastGiven_perm {entries others : List (κ × α)} {key : κ} (hperm : entries.Perm others)
    (hone : (entries.map (·.1)).count key ≤ 1) :
    lastGiven? entries key = lastGiven? others key := by
  have hcount : (entries.map (·.1)).count key = (entries.filter (·.1 = key)).length := by
    rw [List.count_eq_length_filter, List.filter_map, List.length_map]
    simp only [Function.comp_def, beq_eq_decide]
  have hfilter : (others.filter (·.1 = key)).Perm (entries.filter (·.1 = key)) :=
    (hperm.filter _).symm
  have hsame : others.filter (·.1 = key) = entries.filter (·.1 = key) := by
    rcases hkept : entries.filter (·.1 = key) with _ | ⟨e, _ | ⟨f, kept⟩⟩
    · rw [hkept, List.perm_nil] at hfilter
      exact hfilter.trans hkept.symm
    · rw [hkept, List.perm_singleton] at hfilter
      exact hfilter.trans hkept.symm
    · rw [hkept, List.length_cons, List.length_cons] at hcount
      omega
  rw [lastGiven?, lastGiven?, hsame]

theorem row_append (width : Nat) (default : α) (entries : List (Nat × α)) (e : Nat × α) :
    row width default (entries ++ [e]) = (row width default entries).set e.1 e.2 := by
  simp [row, List.foldl_append]

theorem row_foldl (width : Nat) (default : α) (entries : List (Nat × α)) :
    row width default entries =
      entries.foldl (fun cells e => cells.set e.1 e.2) (List.replicate width default) := by
  induction entries using List.reverseRecOn with
  | nil => simp [row]
  | append_singleton entries e ih => rw [row_append, ih, List.foldl_append]; rfl

theorem getElem_row (width : Nat) (default : α) (entries : List (Nat × α)) (column : Nat) :
    (row width default entries)[column]? =
      if column < width then some ((lastGiven? entries column).getD default) else none := by
  induction entries using List.reverseRecOn with
  | nil => simp [row, lastGiven?, List.getElem?_replicate]
  | append_singleton entries e ih =>
    rw [row_append, List.getElem?_set, length_row, lastGiven_append, ih]
    by_cases he : e.1 = column
    · subst he
      simp
    · simp [he]

theorem mem_row {width : Nat} {default a : α} {entries : List (Nat × α)}
    (h : a ∈ row width default entries) : a = default ∨ ∃ column, (column, a) ∈ entries := by
  obtain ⟨column, hc⟩ := List.mem_iff_getElem?.mp h
  rw [getElem_row] at hc
  split at hc
  · cases hl : lastGiven? entries column with
    | none => exact Or.inl (by simpa [hl] using hc.symm)
    | some b =>
      have hb : b = a := by simpa [hl] using hc
      exact Or.inr ⟨column, mem_of_lastGiven (hb ▸ hl)⟩
  · cases hc

theorem row_zipIdx (default : α) (xs : List α) :
    row xs.length default (xs.zipIdx.map fun (x, column) => (column, x)) = xs := by
  -- On the way the row is wider than what is filled so far.
  suffices h : ∀ width, xs.length ≤ width →
      row width default (xs.zipIdx.map fun (x, column) => (column, x))
        = xs ++ List.replicate (width - xs.length) default by
    simpa using h xs.length (Nat.le_refl _)
  intro width
  induction xs using List.reverseRecOn with
  | nil => simp [row]
  | append_singleton xs x ih =>
    intro hle
    rw [List.length_append, List.length_singleton] at hle
    obtain ⟨rest, rfl⟩ : ∃ rest, width = xs.length + (rest + 1) :=
      ⟨width - xs.length - 1, by omega⟩
    have hrest : xs.length + (rest + 1) - xs.length = rest + 1 := by omega
    have hlast : xs.length + (rest + 1) - (xs.length + 1) = rest := by omega
    rw [List.zipIdx_append, List.map_append]
    change row _ default (_ ++ [(0 + xs.length, x)]) = _
    rw [row_append, ih (by omega), hrest, Nat.zero_add, List.length_append, List.length_singleton,
      hlast, List.set_append_right _ _ (Nat.le_refl _), Nat.sub_self, List.replicate_succ,
      List.set_cons_zero, List.append_assoc, List.singleton_append]

theorem row_map_zipIdx {β : Type} (default : α) (f : β → α) (xs : List β) :
    row xs.length default (xs.zipIdx.map fun (x, column) => (column, f x)) = xs.map f := by
  have h := row_zipIdx default (xs.map f)
  rw [List.length_map, List.zipIdx_map, List.map_map] at h
  exact h

end Tableaux
