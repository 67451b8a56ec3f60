import Mathlib.Tactic.TFAE
import Tableaux.Proofs.Simplex.Run
import Tableaux.Proofs.Simplex.Text

/-!
# The views of a pivot

A step shows its pivot as the exchange that is analysed, as the role of a column and as a star in
its text. If the parts of the tableau fit together, these views agree.
-/
namespace Tableaux.Simplex

open Text (join pieces)

/-- The line of a constraint with a star behind the entry of a column. -/
def starredLine (rhs : Float) (entries : List Float) (column : Nat) : List Char :=
  (Decimal.brief rhs).toList ++ " | ".toList ++ join " | ".toList
    ((entries.map fun x => (Decimal.brief x).toList).modify column (· ++ ['*']))

theorem count_starredLine (rhs : Float) {entries : List Float} {column : Nat}
    (h : column < entries.length) : (starredLine rhs entries column).count '*' = 1 := by
  have hbrief (x : Float) : '*' ∉ (Decimal.brief x).toList := isCell_brief x '*' (by decide)
  have hcell : ((entries.map fun x => (Decimal.brief x).toList).modify column
      (· ++ ['*']))[column]? = some ((Decimal.brief entries[column]).toList ++ ['*']) := by
    simp [h]
  have honly : ∀ i cell, ((entries.map fun x => (Decimal.brief x).toList).modify column
      (· ++ ['*']))[i]? = some cell → '*' ∈ cell → i = column := by
    intro i cell hi hstar
    by_contra hne
    rw [List.getElem?_modify, List.getElem?_map] at hi
    obtain ⟨plain, hplain, rfl⟩ := Option.map_eq_some_iff.mp hi
    obtain ⟨x, -, rfl⟩ := Option.map_eq_some_iff.mp hplain
    rw [if_neg (Ne.symm hne)] at hstar
    exact hbrief x hstar
  rw [starredLine, List.count_append, List.count_append,
    List.count_eq_zero_of_not_mem (hbrief rhs), Text.count_join_of_only (by decide) hcell honly,
    List.count_append, List.count_eq_zero_of_not_mem (hbrief _)]
  decide

/-- The text has one star, in the line of a constraint and behind its entry in a column. -/
structure Step.Starred (s : Step) (row column : Nat) : Prop where
  once : s.text.toList.count '*' = 1
  line : ∃ entries rhs, s.tableau.constraints[row]? = some entries ∧
    s.tableau.rhs[row]? = some rhs ∧ column < entries.length ∧
    (pieces '\n' s.text.toList)[row + 4]? = some (starredLine rhs entries column)

namespace Step

variable {s : Step}

theorem constraintRow_starred {row column : Nat} (h : s.tableau.pivot = some ⟨row, column⟩)
    (entries : List Float) (rhs : Float) :
    (s.constraintRow row entries rhs).text.toList = starredLine rhs entries column := by
  have hcells : (s.constraintRow row entries rhs).cells.map String.toList =
      (entries.map fun x => (Decimal.brief x).toList).modify column (· ++ ['*']) := by
    apply List.ext_getElem?
    intro j
    rw [constraintRow, List.getElem?_map, List.getElem?_mapIdx, List.getElem?_modify,
      List.getElem?_map]
    cases entries[j]? with
    | none => rfl
    | some x =>
      by_cases hj : column = j
      · simp [toList_entryText, h, hj]
      · simp [toList_entryText, h, hj]
  rw [TextRow.toList_text, hcells]
  rfl

theorem pivot_of_star {i : Nat} {line : List Char} (h : s.lines[i]? = some line)
    (hstar : '*' ∈ line) : ∃ p, s.tableau.pivot = some p ∧ i = p.row + 4 := by
  rcases line_cases h with hcell | ⟨k, r, rfl, hr, rfl⟩
  · exact absurd hstar (hcell '*' (by decide))
  · rcases textRow_cases hr with hplain | ⟨row, entries, rhs, rfl, -, -, rfl⟩
    · exact absurd hstar (hplain.not_mem_text (by decide) (by decide))
    · by_contra hnone
      have hpivot : ∀ column, s.tableau.pivot ≠ some ⟨row, column⟩ :=
        fun column hp => hnone ⟨_, hp, rfl⟩
      exact not_mem_constraintRow (by decide) (by decide) (fun _ => hpivot) entries rhs hstar

theorem star_not_mem_text (h : s.tableau.pivot = none) : '*' ∉ s.text.toList := by
  rw [toList_text]
  apply Text.not_mem_join (by decide)
  intro line hline hstar
  obtain ⟨i, hi⟩ := List.mem_iff_getElem?.mp hline
  obtain ⟨p, hp, -⟩ := pivot_of_star hi hstar
  rw [h] at hp
  cases hp

theorem starred_of_pivot {p : Pivot} (hp : s.tableau.pivot = some p) {entries : List Float}
    {rhs : Float} (hentries : s.tableau.constraints[p.row]? = some entries)
    (hrhs : s.tableau.rhs[p.row]? = some rhs) (hcolumn : p.column < entries.length) :
    s.Starred p.row p.column := by
  have hrow : s.textRows[p.row + 3]? = some (s.constraintRow p.row entries rhs) := by
    have hentry : (s.tableau.constraints.zip s.tableau.rhs)[p.row]? = some (entries, rhs) :=
      List.getElem?_zip_eq_some.mpr ⟨hentries, hrhs⟩
    change (List.mapIdx _ (s.tableau.constraints.zip s.tableau.rhs))[p.row]? = _
    rw [List.getElem?_mapIdx, hentry]
    rfl
  have hline := getElem_lines_row hrow
  rw [constraintRow_starred hp] at hline
  -- A star elsewhere would belong to another pivot.
  constructor
  · have honly : ∀ i line, s.lines[i]? = some line → '*' ∈ line → i = p.row + 4 := by
      intro i line hi hstar
      obtain ⟨q, hq, hrow⟩ := pivot_of_star hi hstar
      rw [hp] at hq
      cases hq
      exact hrow
    rw [toList_text, Text.count_join_of_only (by decide) hline honly, count_starredLine rhs hcolumn]
  · rw [pieces_text]
    exact ⟨entries, rhs, hentries, hrhs, hcolumn, hline⟩

end Step

/-- There is one basic variable and one right-hand side for each row, all rows are as wide as the
reduced costs, and the pivot lies inside. -/
structure Tableau.WellFormed (t : Tableau) : Prop where
  constraints : t.constraints.length = t.basis.length
  rhs : t.rhs.length = t.basis.length
  width : ∀ entries ∈ t.constraints, entries.length = t.reducedCosts.length
  pivot : ∀ p ∈ t.pivot, p.row < t.constraints.length ∧ p.column < t.reducedCosts.length

variable {t : Tableau} {p : Pivot}

theorem Tableau.WellFormed.leaves (h : t.WellFormed) (hp : t.pivot = some p) :
    ∃ leaving, t.basis[p.row]? = some leaving := by
  have hrow := (h.pivot p hp).1
  rw [h.constraints] at hrow
  exact ⟨_, List.getElem?_eq_getElem hrow⟩

theorem Tableau.WellFormed.starred (h : t.WellFormed) (hp : t.pivot = some p) (label : Label)
    (width : Nat) : (Step.of label t width).Starred p.row p.column := by
  obtain ⟨hrow, hcolumn⟩ := h.pivot p hp
  have hrhs : p.row < t.rhs.length := by
    rwa [h.rhs, ← h.constraints]
  apply Step.starred_of_pivot hp (List.getElem?_eq_getElem hrow) (List.getElem?_eq_getElem hrhs)
  rw [h.width _ (List.getElem_mem hrow)]
  exact hcolumn

theorem Tableau.WellFormed.entering_iff (h : t.WellFormed) (hp : t.pivot = some p) (j : Nat) :
    (columnRoles t.basis t.pivot t.reducedCosts.length)[j]? = some .entering ↔ j = p.column := by
  obtain ⟨leaving, hleaving⟩ := h.leaves hp
  have he : Exchange.of? t.basis t.pivot = some ⟨p.row, p.column, leaving⟩ :=
    exchange_of_some.mpr ⟨p, hp, hleaving, rfl, rfl⟩
  have hcolumn := (h.pivot p hp).2
  rw [getElem_columnRoles he]
  by_cases hj : j < t.reducedCosts.length
  · rw [if_pos hj, Option.some.injEq, role_entering_iff]
  · rw [if_neg hj]
    simp only [reduceCtorEq, false_iff]
    omega

theorem role_without_pivot (basis : List Nat) {columns : Nat} {role : Role}
    (h : role ∈ columnRoles basis none columns) : role = .uninvolved := by
  rw [columnRoles_none rfl] at h
  exact List.eq_of_mem_replicate h

theorem Tableau.WellFormed.analysed_iff (h : t.WellFormed) (label : Label) :
    (∃ entering leaving, analyse label t = .pivot entering leaving) ↔ t.pivot.isSome := by
  simp only [analyse_pivot_iff]
  constructor
  · rintro ⟨entering, leaving, row, hp, -⟩
    rw [hp]
    rfl
  · intro hpivot
    obtain ⟨p, hp⟩ := Option.isSome_iff_exists.mp hpivot
    obtain ⟨leaving, hleaving⟩ := h.leaves hp
    exact ⟨p.column, leaving, p.row, hp, hleaving⟩

theorem Tableau.WellFormed.not_optimal_iff (h : t.WellFormed) (index : Nat) :
    analyse (.step index) t ≠ .optimal ↔ t.pivot.isSome := by
  rw [ne_eq, analyse_optimal_iff, Option.isSome_iff_exists]
  push Not
  constructor
  · rintro ⟨p, hp, -⟩
    exact ⟨p, hp⟩
  · rintro ⟨p, hp⟩
    obtain ⟨leaving, hleaving⟩ := h.leaves hp
    exact ⟨p, hp, (List.getElem?_eq_some_iff.mp hleaving).1⟩

theorem Tableau.WellFormed.entering_mem_iff (h : t.WellFormed) :
    .entering ∈ columnRoles t.basis t.pivot t.reducedCosts.length ↔ t.pivot.isSome := by
  cases hp : t.pivot with
  | none =>
    refine iff_of_false (fun hrole => ?_) (by simp)
    cases role_without_pivot t.basis hrole
  | some p =>
    refine iff_of_true ?_ rfl
    rw [← hp]
    exact List.mem_of_getElem? ((h.entering_iff hp p.column).mpr rfl)

theorem Tableau.WellFormed.star_mem_iff (h : t.WellFormed) (label : Label) (width : Nat) :
    '*' ∈ (Step.of label t width).text.toList ↔ t.pivot.isSome := by
  cases hp : t.pivot with
  | none => exact iff_of_false (Step.star_not_mem_text hp) (by simp)
  | some p =>
    refine iff_of_true ?_ rfl
    rw [← List.count_pos_iff, (h.starred hp label width).once]
    exact Nat.one_pos

theorem Tableau.WellFormed.views (h : t.WellFormed) (index width : Nat) :
    List.TFAE [t.pivot.isSome,
      ∃ entering leaving, analyse (.step index) t = .pivot entering leaving,
      .entering ∈ columnRoles t.basis t.pivot t.reducedCosts.length,
      '*' ∈ (Step.of (.step index) t width).text.toList, analyse (.step index) t ≠ .optimal] := by
  tfae_have 2 ↔ 1 := h.analysed_iff (.step index)
  tfae_have 3 ↔ 1 := h.entering_mem_iff
  tfae_have 4 ↔ 1 := h.star_mem_iff (.step index) width
  tfae_have 5 ↔ 1 := h.not_optimal_iff index
  tfae_finish

theorem initial_without_pivot {cost : List String} {tableaus : List Tableau} {s : Step}
    (h : (retrace cost tableaus).steps[0]? = some s) : s.tableau.pivot = none ∧
      (∀ role ∈ s.roles, role = .uninvolved) ∧ '*' ∉ s.text.toList ∧
      s.analysis = .initialized := by
  cases tableaus with
  | nil => cases h
  | cons first rest =>
    rw [steps_zero] at h
    obtain rfl := Option.some.inj h
    exact ⟨rfl, fun role hrole => role_without_pivot first.basis hrole,
      Step.star_not_mem_text rfl, rfl⟩

theorem not_initialized_of_step (index : Nat) (t : Tableau) :
    analyse (.step index) t ≠ .initialized := by
  unfold analyse
  cases Exchange.of? t.basis t.pivot <;> simp

/-- Roles, analysis and text of a reported tableau that is well formed agree on whether there is a
pivot and where. The first step shows none and is the only one that is analysed as initialized. -/
theorem views_of_pivot_agree (cost : List String) (tableaus : List Tableau) :
    (∀ k t, tableaus[k]? = some t → t.WellFormed →
      ∃ s, (retrace cost tableaus).steps[k + 1]? = some s ∧ s.tableau = t ∧
        List.TFAE [s.tableau.pivot.isSome,
          ∃ entering leaving, s.analysis = .pivot entering leaving, .entering ∈ s.roles,
          '*' ∈ s.text.toList, s.analysis ≠ .optimal] ∧
        ∀ entering leaving, s.analysis = .pivot entering leaving →
          ∃ row, t.pivot = some ⟨row, entering⟩ ∧ t.basis[row]? = some leaving ∧
            (∀ j, s.roles[j]? = some .entering ↔ j = entering) ∧ s.Starred row entering) ∧
    (∀ s, (retrace cost tableaus).steps[0]? = some s → s.tableau.pivot = none ∧
      .entering ∉ s.roles ∧ .leaving ∉ s.roles ∧ '*' ∉ s.text.toList) ∧
    ∀ k s, (retrace cost tableaus).steps[k]? = some s → (s.analysis = .initialized ↔ k = 0) := by
  refine ⟨?_, ?_, ?_⟩
  · intro k t ht hformed
    refine ⟨Step.of (.step k) t cost.length, by rw [steps_succ, ht]; rfl, rfl,
      hformed.views k cost.length, ?_⟩
    intro entering leaving hpivot
    obtain ⟨row, hp, hleaving⟩ := (analyse_pivot_iff (.step k) t entering leaving).mp hpivot
    exact ⟨row, hp, hleaving, hformed.entering_iff hp, hformed.starred hp _ _⟩
  · intro s hs
    obtain ⟨hpivot, hroles, hstar, -⟩ := initial_without_pivot hs
    refine ⟨hpivot, fun hrole => ?_, fun hrole => ?_, hstar⟩
    · cases hroles _ hrole
    · cases hroles _ hrole
  · intro k s hs
    cases k with
    | zero => exact iff_of_true (initial_without_pivot hs).2.2.2 rfl
    | succ k =>
      rw [steps_succ] at hs
      obtain ⟨t, -, rfl⟩ := Option.map_eq_some_iff.mp hs
      exact iff_of_false (not_initialized_of_step k t) (Nat.succ_ne_zero k)

/-- Of two rows and two columns the second entry of the first row is the pivot element. -/
def starSample : Tableau where
  basis := [2, 3]
  constraints := [[1, 2], [0.5, 1]]
  rhs := [4, 6]
  reducedCosts := [⟨-3, 0⟩, ⟨0, -1⟩]
  objective := BigM.zero
  pivot := some ⟨0, 1⟩

theorem starSample_views : starSample.WellFormed ∧
    ∃ s, (retrace ["-3", "-M"] [starSample]).steps[1]? = some s ∧ s.analysis = .pivot 1 2 ∧
      s.roles[1]? = some .entering ∧ s.Starred 0 1 := by
  have hformed : starSample.WellFormed :=
    ⟨by decide, by decide, by decide +kernel, by decide +kernel⟩
  obtain ⟨s, hs, -, -, hpivot⟩ :=
    (views_of_pivot_agree ["-3", "-M"] [starSample]).1 0 starSample rfl hformed
  have hanalysis : s.analysis = .pivot 1 2 := by
    obtain rfl := Option.some.inj hs
    rfl
  obtain ⟨row, hp, -, hroles, hstarred⟩ := hpivot 1 2 hanalysis
  obtain ⟨rfl, -⟩ := Pivot.mk.inj (Option.some.inj hp)
  exact ⟨hformed, s, hs, hanalysis, (hroles 1).mpr rfl, hstarred⟩

end Tableaux.Simplex
