import Mathlib.Data.Nat.Find
import Tableaux.Proofs.Simplex.Run

/-!
# The basic feasible solution of a tableau

The right-hand sides of the rows determine the values of the variables: of several rows with the
same basic variable the last one counts. If no decision variable is basic in two rows, the order
of the rows does not matter.
-/
namespace Tableaux.Simplex

/-- A variable is basic in no row that has a right-hand side, or it has a last such row. -/
theorem nonbasic_or_last (t : Tableau) (v : Nat) :
    (∀ row < t.rhs.length, t.basis[row]? ≠ some v) ∨
    ∃ row value, t.basis[row]? = some v ∧ t.rhs[row]? = some value ∧
      ∀ later, row < later → later < t.rhs.length → t.basis[later]? ≠ some v := by
  by_cases hbasic : ∃ row < t.rhs.length, t.basis[row]? = some v
  · obtain ⟨row, hrow, hv⟩ := hbasic
    let last := Nat.findGreatest (fun r => t.basis[r]? = some v) (t.rhs.length - 1)
    have hlast : last < t.rhs.length := by
      have hle : last ≤ t.rhs.length - 1 := Nat.findGreatest_le _
      omega
    refine Or.inr ⟨last, _, ?_, List.getElem?_eq_getElem hlast, ?_⟩
    · exact Nat.findGreatest_spec (P := fun r => t.basis[r]? = some v) (by omega) hv
    · intro later hlater hlength
      exact Nat.findGreatest_is_greatest hlater (by omega)
  · exact Or.inl fun row hrow hv => hbasic ⟨row, hrow, hv⟩

theorem solves_iff (t : Tableau) (width : Nat) (x : List Float) :
    t.Solves width x ↔ x = t.solution width := by
  constructor
  · intro h
    have hsolution := solution_solves t width
    apply List.ext_getElem?
    intro v
    by_cases hv : v < width
    · rcases nonbasic_or_last t v with hnone | ⟨row, value, hbasis, hrhs, hlast⟩
      · rw [h.nonbasic v hv hnone, hsolution.nonbasic v hv hnone]
      · rw [h.basic row v value hv hbasis hrhs hlast,
          hsolution.basic row v value hv hbasis hrhs hlast]
    · rw [List.getElem?_eq_none (by rw [h.length]; omega),
        List.getElem?_eq_none (by rw [hsolution.length]; omega)]
  · rintro rfl
    exact solution_solves t width

/-- Two tableaus have the same rows, in any order: the basic variables of one are permuted
together with their right-hand sides. -/
structure Tableau.Reorders (t s : Tableau) : Prop where
  even : t.basis.length = t.rhs.length
  evenAfter : s.basis.length = s.rhs.length
  rows : (t.basis.zip t.rhs).Perm (s.basis.zip s.rhs)

theorem solution_reordered {t s : Tableau} (h : t.Reorders s) {width : Nat}
    (hdistinct : (t.basis.filter (· < width)).Nodup) : s.solution width = t.solution width := by
  apply List.ext_getElem?
  intro v
  by_cases hv : v < width
  · have hwithin : decide (v < width) = true := by simpa using hv
    have hone : ((t.basis.zip t.rhs).map (·.1)).count v ≤ 1 := by
      rw [List.map_fst_zip (Nat.le_of_eq h.even), ← List.count_filter (p := (· < width)) hwithin]
      exact List.nodup_iff_count_le_one.mp hdistinct v
    rw [getElem_solution s hv, getElem_solution t hv, lastGiven_perm h.rows hone]
  · rw [List.getElem?_eq_none (by rw [length_solution]; omega),
      List.getElem?_eq_none (by rw [length_solution]; omega)]

example : (⟨[1, 1], [], [2, 3], [], BigM.zero, none⟩ : Tableau).solution 2 ≠
    (⟨[1, 1], [], [3, 2], [], BigM.zero, none⟩ : Tableau).solution 2 := by
  decide +kernel

/-- The solution has the given width and is the only list of values in which every basic variable
has the right-hand side of the last of its rows and every other variable is zero. If no variable
within the width is basic twice, it is the same for the rows in every order. -/
theorem solution_is_determined (t : Tableau) (width : Nat) :
    (∀ x, t.Solves width x ↔ x = t.solution width) ∧
    ∀ s : Tableau, t.Reorders s → (t.basis.filter (· < width)).Nodup →
      s.solution width = t.solution width :=
  ⟨solves_iff t width, fun _ h hdistinct => solution_reordered h hdistinct⟩

/-- The variable `x2` is basic in the first row and `x1` in none. The rows of a slack variable,
which is basic twice, give no value. -/
def slackSample : Tableau where
  basis := [1, 4, 2, 4]
  constraints := [[1, 1], [0, 1], [2, 0], [1, 3]]
  rhs := [2.5, 7, 3, 8]
  reducedCosts := []
  objective := BigM.zero
  pivot := none

def slackReordered : Tableau where
  basis := [4, 2, 4, 1]
  constraints := [[1, 3], [2, 0], [0, 1], [1, 1]]
  rhs := [8, 3, 7, 2.5]
  reducedCosts := []
  objective := BigM.zero
  pivot := none

theorem slackSample_reorders : slackSample.Reorders slackReordered where
  even := rfl
  evenAfter := rfl
  rows := by decide +kernel

theorem slackSample_solution :
    slackSample.Reorders slackReordered ∧ (slackSample.basis.filter (· < 3)).Nodup ∧
    slackSample.solution 3 = [0, 2.5, 3] ∧ slackReordered.solution 3 = [0, 2.5, 3] := by
  have hdistinct : (slackSample.basis.filter (· < 3)).Nodup := by decide
  have hsolution : slackSample.solution 3 = [0, 2.5, 3] := by decide +kernel
  have hsame : slackReordered.solution 3 = slackSample.solution 3 :=
    (solution_is_determined slackSample 3).2 slackReordered slackSample_reorders hdistinct
  exact ⟨slackSample_reorders, hdistinct, hsolution, hsame.trans hsolution⟩

end Tableaux.Simplex
