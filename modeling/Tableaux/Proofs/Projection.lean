import Tableaux.Projection

/-!
# Axes of a drawing

A trajectory is drawn over two axes if they differ and all of its points have both. The
horizontal axis is looked at first. Points of one width have that many axes.
-/
namespace Tableaux.Projection

variable {trajectory : List (List Float)} {horizontal vertical : Nat}

theorem dimension_of_width {width : Nat} (hne : trajectory ≠ [])
    (h : ∀ point ∈ trajectory, point.length = width) : dimension? trajectory = some width := by
  obtain ⟨point, hpoint⟩ := List.exists_mem_of_ne_nil trajectory hne
  rw [dimension?, List.min?_eq_some_iff]
  constructor
  · exact List.mem_map.mpr ⟨point, hpoint, h point hpoint⟩
  · intro n hn
    obtain ⟨other, hother, rfl⟩ := List.mem_map.mp hn
    exact Nat.le_of_eq (h other hother).symm

theorem missingAxis_eq_some {axis dimension : Nat} :
    missingAxis? trajectory [horizontal, vertical] = some (axis, dimension) ↔
      dimension? trajectory = some dimension ∧
        (axis = horizontal ∧ dimension ≤ horizontal ∨
          axis = vertical ∧ horizontal < dimension ∧ dimension ≤ vertical) := by
  unfold missingAxis?
  cases hd : dimension? trajectory with
  | none => simp
  | some d =>
    by_cases hh : d ≤ horizontal
    · simp [List.find?, hh]
      omega
    · by_cases hv : d ≤ vertical
      · simp [List.find?, hh, hv]
        omega
      · simp [List.find?, hh, hv]
        omega

theorem missingAxis_eq_none :
    missingAxis? trajectory [horizontal, vertical] = none ↔
      ∀ dimension ∈ dimension? trajectory, horizontal < dimension ∧ vertical < dimension := by
  unfold missingAxis?
  cases hd : dimension? trajectory with
  | none => simp
  | some d => simp

theorem make_ok_iff (viewport : Viewport) :
    (∃ p, make viewport trajectory horizontal vertical = .ok p) ↔
      horizontal ≠ vertical ∧
        ∀ dimension ∈ dimension? trajectory, horizontal < dimension ∧ vertical < dimension := by
  rw [← missingAxis_eq_none]
  unfold make
  by_cases hsame : horizontal = vertical
  · simp [hsame]
  · cases missingAxis? trajectory [horizontal, vertical] <;> simp [hsame]

theorem make_identical_iff (viewport : Viewport) {axis : Nat} :
    make viewport trajectory horizontal vertical = .error (.identical axis) ↔
      axis = horizontal ∧ horizontal = vertical := by
  unfold make
  by_cases hsame : horizontal = vertical
  · simp [hsame, eq_comm]
  · cases missingAxis? trajectory [horizontal, vertical] <;> simp [hsame]

theorem make_outOfRange_iff (viewport : Viewport) {axis dimension : Nat} :
    make viewport trajectory horizontal vertical = .error (.outOfRange axis dimension) ↔
      horizontal ≠ vertical ∧ dimension? trajectory = some dimension ∧
        (axis = horizontal ∧ dimension ≤ horizontal ∨
          axis = vertical ∧ horizontal < dimension ∧ dimension ≤ vertical) := by
  rw [← missingAxis_eq_some]
  unfold make
  by_cases hsame : horizontal = vertical
  · simp [hsame]
  · cases missingAxis? trajectory [horizontal, vertical] <;> simp [hsame, Prod.ext_iff]

end Tableaux.Projection
