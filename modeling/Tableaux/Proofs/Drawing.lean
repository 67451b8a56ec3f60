import Tableaux.Proofs.Projection
import Tableaux.Proofs.Simplex.Run

/-!
# Drawings of trajectories

A drawing reads the coordinates of all points over its two axes, and no point is asked for a
coordinate that it does not have. A trajectory is not drawn over one axis alone, nor over an axis
that is missing from its shortest point.
-/
namespace Tableaux.Projection

variable {viewport : Viewport} {trajectory : List (List Float)} {horizontal vertical axis : Nat}
  {p : Projection}

structure SmallestWidth (trajectory : List (List Float)) (dimension : Nat) : Prop where
  reached : ∃ point ∈ trajectory, point.length = dimension
  least : ∀ point ∈ trajectory, dimension ≤ point.length

/-- What is wrong with two axes. The horizontal one is looked at first. -/
inductive Unfit (trajectory : List (List Float)) (horizontal vertical : Nat) : AxisError → Prop where
  | identical (same : horizontal = vertical) :
      Unfit trajectory horizontal vertical (.identical horizontal)
  | horizontal (dimension : Nat) (different : horizontal ≠ vertical)
      (smallest : SmallestWidth trajectory dimension) (missing : dimension ≤ horizontal) :
      Unfit trajectory horizontal vertical (.outOfRange horizontal dimension)
  | vertical (dimension : Nat) (different : horizontal ≠ vertical)
      (smallest : SmallestWidth trajectory dimension) (present : horizontal < dimension)
      (missing : dimension ≤ vertical) :
      Unfit trajectory horizontal vertical (.outOfRange vertical dimension)

def HasAxis (trajectory : List (List Float)) (axis : Nat) : Prop :=
  ∀ point ∈ trajectory, axis < point.length

theorem dimension_eq_some {dimension : Nat} :
    dimension? trajectory = some dimension ↔ SmallestWidth trajectory dimension := by
  rw [dimension?, List.min?_eq_some_iff]
  constructor
  · rintro ⟨hreached, hleast⟩
    obtain ⟨point, hpoint, hlength⟩ := List.mem_map.mp hreached
    exact ⟨⟨point, hpoint, hlength⟩, fun other hother => hleast _ (List.mem_map_of_mem hother)⟩
  · rintro ⟨⟨point, hpoint, hlength⟩, hleast⟩
    refine ⟨List.mem_map.mpr ⟨point, hpoint, hlength⟩, fun n hn => ?_⟩
    obtain ⟨other, hother, rfl⟩ := List.mem_map.mp hn
    exact hleast other hother

theorem hasAxis_iff : HasAxis trajectory axis ↔ ∀ dimension ∈ dimension? trajectory,
    axis < dimension := by
  constructor
  · intro h dimension hdimension
    obtain ⟨point, hpoint, rfl⟩ := (dimension_eq_some.mp hdimension).reached
    exact h point hpoint
  · intro h point hpoint
    cases hd : dimension? trajectory with
    | none =>
      rw [dimension?, List.min?_eq_none_iff, List.map_eq_nil_iff] at hd
      rw [hd] at hpoint
      cases hpoint
    | some dimension =>
      have hleast := (dimension_eq_some.mp hd).least point hpoint
      exact Nat.lt_of_lt_of_le (h dimension hd) hleast

theorem make_error_iff (viewport : Viewport) (e : AxisError) :
    make viewport trajectory horizontal vertical = .error e ↔
      Unfit trajectory horizontal vertical e := by
  cases e with
  | identical axis =>
    rw [make_identical_iff]
    constructor
    · rintro ⟨rfl, hsame⟩
      exact .identical hsame
    · rintro ⟨hsame⟩
      exact ⟨rfl, hsame⟩
  | outOfRange axis dimension =>
    rw [make_outOfRange_iff, dimension_eq_some]
    constructor
    · rintro ⟨hdifferent, hsmallest, ⟨rfl, hmissing⟩ | ⟨rfl, hpresent, hmissing⟩⟩
      · exact .horizontal dimension hdifferent hsmallest hmissing
      · exact .vertical dimension hdifferent hsmallest hpresent hmissing
    · intro h
      cases h with
      | horizontal _ hdifferent hsmallest hmissing =>
        exact ⟨hdifferent, hsmallest, Or.inl ⟨rfl, hmissing⟩⟩
      | vertical _ hdifferent hsmallest hpresent hmissing =>
        exact ⟨hdifferent, hsmallest, Or.inr ⟨rfl, hpresent, hmissing⟩⟩

/-- The coordinates of all points over an axis, if no point ends before it. -/
def along? (trajectory : List (List Float)) (axis : Nat) : Option (List Float) :=
  trajectory.mapM fun point => point[axis]?

/-- The pixels that one unit takes on an axis, where the largest coordinate reaches the margin. -/
def pixels (length margin : Float) (coordinates : List Float) : Float :=
  (length - 2 * margin) / farEnd coordinates

/-- The axes are named, and one point is drawn for each point, in order, of coordinates that the
points have. Only the last one is terminal. -/
structure Draws (viewport : Viewport) (trajectory : List (List Float)) (horizontal vertical : Nat)
    (p : Projection) : Prop where
  across : p.horizontal = horizontal
  up : p.vertical = vertical
  labels : p.labels = (label horizontal, label vertical)
  length : p.points.length = trajectory.length
  each : ∃ xs ys, along? trajectory horizontal = some xs ∧ along? trajectory vertical = some ys ∧
    ∀ i point, trajectory[i]? = some point → ∃ x y drawn, point[horizontal]? = some x ∧
      point[vertical]? = some y ∧ p.points[i]? = some drawn ∧ drawn.index = i ∧
      drawn.x = viewport.margin + x * pixels viewport.width viewport.margin xs ∧
      drawn.y = viewport.height -
        (viewport.margin + y * pixels viewport.height viewport.margin ys) ∧
      (drawn.marker = .terminal ↔ i + 1 = trajectory.length)

theorem getElem_coordinate {point : List Float} (h : axis < point.length) :
    point[axis]? = some (coordinate axis point) := by
  rw [coordinate, List.getD_eq_getElem?_getD, List.getElem?_eq_getElem h]
  rfl

theorem along_eq_some {coordinates : List Float} :
    along? trajectory axis = some coordinates ↔
      HasAxis trajectory axis ∧ coordinates = trajectory.map (coordinate axis) := by
  induction trajectory generalizing coordinates with
  | nil => simp [along?, HasAxis, eq_comm]
  | cons point others ih =>
    have hcons : along? (point :: others) axis =
        (point[axis]?).bind fun x => (along? others axis).map (x :: ·) := by
      rw [along?, List.mapM_cons]
      cases point[axis]? with
      | none => rfl
      | some x =>
        rw [Option.bind_some, Option.map_eq_bind]
        rfl
    have haxis : HasAxis (point :: others) axis ↔ axis < point.length ∧ HasAxis others axis :=
      List.forall_mem_cons
    rw [hcons, haxis]
    by_cases hpoint : axis < point.length
    · rw [getElem_coordinate hpoint, Option.bind_some, Option.map_eq_some_iff]
      simp [ih, hpoint, eq_comm, and_assoc]
    · rw [List.getElem?_eq_none (Nat.le_of_not_lt hpoint)]
      simp [hpoint]

theorem getElem_draw {i : Nat} {point : List Float} (h : trajectory[i]? = some point) :
    (draw viewport trajectory horizontal vertical).points[i]? = some
      { index := i
        x := viewport.margin + coordinate horizontal point *
          pixels viewport.width viewport.margin (trajectory.map (coordinate horizontal))
        y := viewport.height - (viewport.margin + coordinate vertical point *
          pixels viewport.height viewport.margin (trajectory.map (coordinate vertical)))
        marker := if i + 1 = trajectory.length then .terminal else .visited } := by
  rw [draw, List.getElem?_mapIdx, h]
  rfl

theorem draws_draw (hh : HasAxis trajectory horizontal) (hv : HasAxis trajectory vertical) :
    Draws viewport trajectory horizontal vertical
      (draw viewport trajectory horizontal vertical) where
  across := rfl
  up := rfl
  labels := rfl
  length := by rw [draw, List.length_mapIdx]
  each := by
    refine ⟨_, _, along_eq_some.mpr ⟨hh, rfl⟩, along_eq_some.mpr ⟨hv, rfl⟩, ?_⟩
    intro i point hpoint
    have hmem := List.mem_of_getElem? hpoint
    refine ⟨_, _, _, getElem_coordinate (hh point hmem), getElem_coordinate (hv point hmem),
      getElem_draw hpoint, rfl, rfl, rfl, ?_⟩
    by_cases hlast : i + 1 = trajectory.length <;> simp [hlast]

theorem eq_of_draws (h : Draws viewport trajectory horizontal vertical p) :
    HasAxis trajectory horizontal ∧ HasAxis trajectory vertical ∧
      p = draw viewport trajectory horizontal vertical := by
  obtain ⟨hacross, hup, hlabels, hlength, xs, ys, hxs, hys, heach⟩ := h
  obtain ⟨hh, rfl⟩ := along_eq_some.mp hxs
  obtain ⟨hv, rfl⟩ := along_eq_some.mp hys
  have hpoints : p.points = (draw viewport trajectory horizontal vertical).points := by
    apply List.ext_getElem?
    intro i
    by_cases hi : i < trajectory.length
    · have hpoint := List.getElem?_eq_getElem hi
      have hmem := List.getElem_mem hi
      obtain ⟨x, y, drawn, hx, hy, hdrawn, hindex, hleft, htop, hmarker⟩ := heach i _ hpoint
      obtain rfl := Option.some.inj ((getElem_coordinate (hh _ hmem)).symm.trans hx)
      obtain rfl := Option.some.inj ((getElem_coordinate (hv _ hmem)).symm.trans hy)
      rw [hdrawn, getElem_draw hpoint, Option.some.injEq, DrawnPoint.mk.injEq]
      refine ⟨hindex, hleft, htop, ?_⟩
      by_cases hlast : i + 1 = trajectory.length
      · rw [if_pos hlast, hmarker.mpr hlast]
      · rw [if_neg hlast]
        cases hm : drawn.marker with
        | visited => rfl
        | terminal => exact absurd (hmarker.mp hm) hlast
    · rw [draw, List.getElem?_eq_none (by omega),
        List.getElem?_eq_none (by rw [List.length_mapIdx]; omega)]
  refine ⟨hh, hv, ?_⟩
  cases p
  obtain rfl : _ = horizontal := hacross
  obtain rfl : _ = vertical := hup
  rw [Projection.mk.injEq]
  exact ⟨rfl, rfl, hlabels, hpoints⟩

theorem make_eq_ok_iff (viewport : Viewport) :
    make viewport trajectory horizontal vertical = .ok p ↔
      horizontal ≠ vertical ∧ Draws viewport trajectory horizontal vertical p := by
  have hmake : make viewport trajectory horizontal vertical = .ok p ↔
      (∃ q, make viewport trajectory horizontal vertical = .ok q) ∧
        p = draw viewport trajectory horizontal vertical := by
    unfold make
    by_cases hsame : horizontal = vertical
    · simp [hsame]
    · cases missingAxis? trajectory [horizontal, vertical] <;> simp [hsame, eq_comm]
  have hrange : (∀ dimension ∈ dimension? trajectory, horizontal < dimension ∧ vertical < dimension)
      ↔ HasAxis trajectory horizontal ∧ HasAxis trajectory vertical := by
    rw [hasAxis_iff, hasAxis_iff]
    exact ⟨fun h => ⟨fun d hd => (h d hd).1, fun d hd => (h d hd).2⟩,
      fun h d hd => ⟨h.1 d hd, h.2 d hd⟩⟩
  rw [hmake, make_ok_iff, hrange]
  constructor
  · rintro ⟨⟨hdifferent, hh, hv⟩, rfl⟩
    exact ⟨hdifferent, draws_draw hh hv⟩
  · rintro ⟨hdifferent, h⟩
    obtain ⟨hh, hv, rfl⟩ := eq_of_draws h
    exact ⟨⟨hdifferent, hh, hv⟩, rfl⟩

open Simplex (retrace Tableau trajectory_retrace length_solution)

theorem hasAxis_trajectory (cost : List String) (tableaus : List Tableau) (axis : Nat) :
    HasAxis (retrace cost tableaus).trajectory axis ↔
      axis < cost.length ∨ (retrace cost tableaus).trajectory = [] := by
  have hlength : ∀ point ∈ (retrace cost tableaus).trajectory, point.length = cost.length := by
    intro point hpoint
    rw [trajectory_retrace] at hpoint
    obtain ⟨t, -, rfl⟩ := List.mem_map.mp hpoint
    exact length_solution t cost.length
  constructor
  · intro h
    by_cases hnone : (retrace cost tableaus).trajectory = []
    · exact Or.inr hnone
    · obtain ⟨point, hpoint⟩ := List.exists_mem_of_ne_nil _ hnone
      rw [← hlength point hpoint]
      exact Or.inl (h point hpoint)
  · rintro (h | h) point hpoint
    · rwa [hlength point hpoint]
    · rw [h] at hpoint
      cases hpoint

/-- A trajectory is refused exactly for what is wrong with the axes, and else it is drawn of the
coordinates that its points have. A run has an axis for every decision variable. -/
theorem axes_decide_drawing :
    (∀ viewport trajectory horizontal vertical e,
      make viewport trajectory horizontal vertical = .error e ↔
        Unfit trajectory horizontal vertical e) ∧
    (∀ viewport trajectory horizontal vertical p,
      make viewport trajectory horizontal vertical = .ok p ↔
        horizontal ≠ vertical ∧ Draws viewport trajectory horizontal vertical p) ∧
    ∀ cost tableaus horizontal vertical,
      HasAxis (retrace cost tableaus).trajectory horizontal ∧
        HasAxis (retrace cost tableaus).trajectory vertical ↔
      horizontal < cost.length ∧ vertical < cost.length ∨
        (retrace cost tableaus).trajectory = [] := by
  refine ⟨fun viewport _ _ _ e => make_error_iff viewport e,
    fun viewport _ _ _ _ => make_eq_ok_iff viewport, ?_⟩
  intro cost tableaus horizontal vertical
  rw [hasAxis_trajectory, hasAxis_trajectory, ← and_or_right]

end Tableaux.Projection
