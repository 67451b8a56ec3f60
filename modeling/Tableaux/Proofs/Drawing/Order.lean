import Tableaux.Proofs.Decimal.Sum
import Tableaux.Proofs.Drawing

/-!
# Order in a drawing

An axis is scaled so that its largest coordinate is drawn at the far end. If that coordinate is
negative, so is the scale, and the axis is drawn in the other direction. Otherwise points are drawn in
the order of their coordinates, as long as the scale does not overflow.
-/
namespace Tableaux

open Decimal (exact)

/-- A drawing region of finite size that is wider and higher than its margins. -/
structure Viewport.Roomy (v : Viewport) : Prop where
  finite : v.width.isFinite = true ∧ v.height.isFinite = true ∧ v.margin.isFinite = true
  across : 2 * v.margin < v.width
  up : 2 * v.margin < v.height

namespace Projection

/-- A trajectory of finite coordinates over two different axes, and a region to draw it in. -/
structure Drawable (viewport : Viewport) (trajectory : List (List Float)) (horizontal vertical : Nat) :
    Prop where
  roomy : viewport.Roomy
  finite : ∀ point ∈ trajectory, ∀ x ∈ point, x.isFinite = true
  different : horizontal ≠ vertical
  across : HasAxis trajectory horizontal
  up : HasAxis trajectory vertical

variable {viewport : Viewport} {trajectory : List (List Float)} {horizontal vertical axis : Nat}
  {coordinates : List Float} {m x y length margin scale : Float}

theorem foldl_largest (hm : m.isNaN = false) (h : ∀ x ∈ coordinates, x.isNaN = false) :
    coordinates.foldl (fun m x => if m < x then x else m) m ∈ m :: coordinates ∧
      ∀ x ∈ m :: coordinates,
        exact x ≤ exact (coordinates.foldl (fun m x => if m < x then x else m) m) := by
  induction coordinates generalizing m with
  | nil => simp
  | cons y others ih =>
    obtain ⟨hy, hothers⟩ := List.forall_mem_cons.mp h
    rw [List.foldl_cons]
    split
    · rename_i hlt
      obtain ⟨hmem, hle⟩ := ih hy hothers
      refine ⟨List.mem_cons_of_mem m hmem, List.forall_mem_cons.mpr ⟨?_, hle⟩⟩
      exact ((Decimal.lt_iff hm hy).mp hlt).le.trans (hle y List.mem_cons_self)
    · rename_i hge
      obtain ⟨hmem, hle⟩ := ih hm hothers
      obtain ⟨hfirst, hrest⟩ := List.forall_mem_cons.mp hle
      rw [Decimal.lt_iff hm hy, not_lt] at hge
      refine ⟨?_, List.forall_mem_cons.mpr ⟨hfirst, List.forall_mem_cons.mpr ⟨hge.trans hfirst, hrest⟩⟩⟩
      rcases List.mem_cons.mp hmem with heq | hmem
      · rw [heq]
        exact List.mem_cons_self
      · exact List.mem_cons_of_mem m (List.mem_cons_of_mem y hmem)

theorem largest_mem (hne : coordinates ≠ []) (h : ∀ x ∈ coordinates, x.isFinite = true) :
    largest coordinates ∈ coordinates ∧ ∀ x ∈ coordinates, exact x ≤ exact (largest coordinates) := by
  obtain ⟨hmem, hle⟩ := foldl_largest (m := -1.0 / 0.0) (by decide)
    fun x hx => Decimal.isNaN_of_finite (h x hx)
  have hrest : ∀ x ∈ coordinates, exact x ≤ exact (largest coordinates) := fun x hx =>
    hle x (List.mem_cons_of_mem _ hx)
  refine ⟨(List.mem_cons.mp hmem).resolve_left fun hinfinite => ?_, hrest⟩
  -- No finite number is below the infinite one that the search starts with.
  obtain ⟨x, hx⟩ := List.exists_mem_of_ne_nil coordinates hne
  have hlow := (Decimal.isFinite_iff (Decimal.isNaN_of_finite (h x hx))).mp (h x hx)
  have hstart : exact (-1.0 / 0.0) = -Decimal.limit := neg_one_mul Decimal.limit
  have hlarge : largest coordinates = -1.0 / 0.0 := hinfinite
  have hbelow := hrest x hx
  rw [hlarge, hstart] at hbelow
  exact absurd (abs_lt.mp hlow).1 hbelow.not_gt

theorem farEnd_sign (hne : coordinates ≠ []) (h : ∀ x ∈ coordinates, x.isFinite = true) :
    (farEnd coordinates).isFinite = true ∧
      ((∃ x ∈ coordinates, 0 ≤ exact x) → 0 < exact (farEnd coordinates)) ∧
      ((∀ x ∈ coordinates, exact x < 0) → exact (farEnd coordinates) < 0) := by
  obtain ⟨hmem, hle⟩ := largest_mem hne h
  have hfinite := h _ hmem
  have hfar : farEnd coordinates = if largest coordinates == 0 then 1 else largest coordinates := by
    rw [farEnd]
    simp [hfinite]
  have hzero := Decimal.beq_iff (Decimal.isNaN_of_finite hfinite) (show (0 : Float).isNaN = false by decide)
  rw [Decimal.exact_zero] at hzero
  rw [hfar]
  split
  · rename_i heq
    refine ⟨by decide, fun _ => ?_, fun hneg => ?_⟩
    · rw [Decimal.exact_one]
      exact one_pos
    · exact absurd (hzero.mp heq) (hneg _ hmem).ne
  · rename_i hother
    refine ⟨hfinite, fun ⟨x, hx, hsign⟩ => ?_, fun hneg => hneg _ hmem⟩
    exact lt_of_le_of_ne (hsign.trans (hle x hx)) fun heq => hother (hzero.mpr heq.symm)

theorem room_nonneg (hlength : length.isFinite = true) (hmargin : margin.isFinite = true)
    (hroom : 2 * margin < length) :
    (length - 2 * margin).isNaN = false ∧ 0 ≤ exact (length - 2 * margin) := by
  have hdouble : (2 * margin).isNaN = false := Decimal.isNaN_mul_of_finite (by decide) hmargin
  have hnumber := Decimal.isNaN_of_finite hlength
  have hless := (Decimal.lt_iff hdouble hnumber).mp hroom
  refine ⟨(Decimal.isNaN_sub hlength).trans hdouble, ?_⟩
  rw [← Decimal.exact_sub_self hlength]
  exact Decimal.exact_sub_anti hlength hdouble hnumber hless.le

theorem pixels_sign (hlength : length.isFinite = true) (hmargin : margin.isFinite = true)
    (hroom : 2 * margin < length) (hne : coordinates ≠ [])
    (h : ∀ x ∈ coordinates, x.isFinite = true) :
    ((∃ x ∈ coordinates, 0 ≤ exact x) → 0 ≤ exact (pixels length margin coordinates)) ∧
      ((∀ x ∈ coordinates, exact x < 0) → exact (pixels length margin coordinates) ≤ 0) := by
  obtain ⟨hnumber, hnonneg⟩ := room_nonneg hlength hmargin hroom
  obtain ⟨hfinite, hforward, hbackward⟩ := farEnd_sign hne h
  have hfar : exact (farEnd coordinates) ≠ 0 := by
    by_cases hside : ∃ x ∈ coordinates, 0 ≤ exact x
    · exact (hforward hside).ne'
    · push Not at hside
      exact (hbackward hside).ne
  obtain ⟨hpos, hneg⟩ := Decimal.exact_div_sign hnumber hnonneg hfinite hfar
  exact ⟨fun hside => hpos (hforward hside), fun hside => hneg (hbackward hside)⟩

/-- No point has a coordinate on the axis that is zero or positive. -/
def Backward (trajectory : List (List Float)) (axis : Nat) : Prop :=
  ∀ point ∈ trajectory, coordinate axis point < 0

/-- How points with the coordinates `a` and `b` are placed at `s` and `t` on an axis where places are
ordered by `before`. -/
structure Placed (backward : Prop) (before : Float → Float → Prop) (a b s t : Float) : Prop where
  forward : ¬ backward → a ≤ b → before s t
  backward : backward → a ≤ b → before t s

instance : Decidable (HasAxis trajectory axis) :=
  inferInstanceAs (Decidable (∀ point ∈ trajectory, axis < point.length))

instance : Decidable (Backward trajectory axis) :=
  inferInstanceAs (Decidable (∀ point ∈ trajectory, coordinate axis point < 0))

theorem isNaN_place (hmargin : margin.isFinite = true) (hx : x.isFinite = true)
    (hscale : scale.isFinite = true) : (margin + x * scale).isNaN = false := by
  rw [Decimal.isNaN_add hmargin, Decimal.isNaN_mul_of_finite hx hscale]

theorem place_mono (hmargin : margin.isFinite = true) (hx : x.isFinite = true) (hy : y.isFinite = true)
    (hscale : scale.isFinite = true) (h : x ≤ y) :
    (0 ≤ exact scale → margin + x * scale ≤ margin + y * scale) ∧
      (exact scale ≤ 0 → margin + y * scale ≤ margin + x * scale) := by
  have hs := isNaN_place hmargin hx hscale
  have ht := isNaN_place hmargin hy hscale
  have hproduct := Decimal.isNaN_mul_of_finite hx hscale
  have hproduct' := Decimal.isNaN_mul_of_finite hy hscale
  rw [Decimal.le_iff (Decimal.isNaN_of_finite hx) (Decimal.isNaN_of_finite hy)] at h
  obtain ⟨hpos, hneg⟩ := Decimal.exact_mul_mono hx hy hscale h
  rw [Decimal.le_iff hs ht, Decimal.le_iff ht hs]
  exact ⟨fun hsign => Decimal.exact_add_mono hmargin hproduct hproduct' (hpos hsign),
    fun hsign => Decimal.exact_add_mono hmargin hproduct' hproduct (hneg hsign)⟩

theorem placed_across (hlength : length.isFinite = true) (hmargin : margin.isFinite = true)
    (hroom : 2 * margin < length)
    (h : ∀ point ∈ trajectory, (coordinate axis point).isFinite = true) {p q : List Float}
    (hp : p ∈ trajectory) (hq : q ∈ trajectory)
    (hscale : (pixels length margin (trajectory.map (coordinate axis))).isFinite = true) :
    Placed (Backward trajectory axis) (· ≤ ·) (coordinate axis p) (coordinate axis q)
      (margin + coordinate axis p * pixels length margin (trajectory.map (coordinate axis)))
      (margin + coordinate axis q * pixels length margin (trajectory.map (coordinate axis))) := by
  obtain ⟨hpos, hneg⟩ := pixels_sign hlength hmargin hroom
    (List.map_eq_nil_iff.not.mpr (List.ne_nil_of_mem hp)) (List.forall_mem_map.mpr h)
  have hsign : ∀ point ∈ trajectory, coordinate axis point < 0 ↔ exact (coordinate axis point) < 0 :=
    fun point hpoint => by
      rw [Decimal.lt_iff (Decimal.isNaN_of_finite (h point hpoint)) (by decide), Decimal.exact_zero]
  refine ⟨fun hforward hle => ?_, fun hbackward hle => ?_⟩
  · refine (place_mono hmargin (h p hp) (h q hq) hscale hle).1 (hpos ?_)
    unfold Backward at hforward
    push Not at hforward
    obtain ⟨point, hpoint, hge⟩ := hforward
    rw [hsign point hpoint, not_lt] at hge
    exact ⟨_, List.mem_map_of_mem hpoint, hge⟩
  · refine (place_mono hmargin (h p hp) (h q hq) hscale hle).2 (hneg ?_)
    exact List.forall_mem_map.mpr fun point hpoint => (hsign point hpoint).mp (hbackward point hpoint)

theorem Placed.flip {backward : Prop} {a b s t : Float} (hlength : length.isFinite = true)
    (h : Placed backward (· ≤ ·) a b s t) :
    Placed backward (fun s t => t ≤ s) a b (length - s) (length - t) := by
  have hanti : ∀ {s t : Float}, s ≤ t → length - t ≤ length - s := by
    intro s t hle
    obtain ⟨hs, ht⟩ := Decimal.isNaN_of_le hle
    rw [Decimal.le_iff ((Decimal.isNaN_sub hlength).trans ht) ((Decimal.isNaN_sub hlength).trans hs)]
    exact Decimal.exact_sub_anti hlength hs ht ((Decimal.le_iff hs ht).mp hle)
  exact ⟨fun hforward hle => hanti (h.forward hforward hle),
    fun hbackward hle => hanti (h.backward hbackward hle)⟩

/-- On an axis of finite scale points are drawn in the order of their coordinates if one of these is
zero or positive, and else the other way around. -/
theorem drawn_in_order (h : Drawable viewport trajectory horizontal vertical) :
    ∃ p : Projection, make viewport trajectory horizontal vertical = .ok p ∧
      ∀ (i j : Nat) (a b : List Float), trajectory[i]? = some a → trajectory[j]? = some b →
        ∃ s t : DrawnPoint, p.points[i]? = some s ∧ p.points[j]? = some t ∧
          ((pixels viewport.width viewport.margin
              (trajectory.map (coordinate horizontal))).isFinite = true →
            Placed (Backward trajectory horizontal) (· ≤ ·)
              (coordinate horizontal a) (coordinate horizontal b) s.x t.x) ∧
          ((pixels viewport.height viewport.margin
              (trajectory.map (coordinate vertical))).isFinite = true →
            Placed (Backward trajectory vertical) (fun s t => t ≤ s)
              (coordinate vertical a) (coordinate vertical b) s.y t.y) := by
  refine ⟨_, (make_eq_ok_iff viewport).mpr ⟨h.different, draws_draw h.across h.up⟩, ?_⟩
  intro i j a b ha hb
  obtain ⟨hwidth, hheight, hmargin⟩ := h.roomy.finite
  have hcoordinate : ∀ {axis}, HasAxis trajectory axis →
      ∀ point ∈ trajectory, (coordinate axis point).isFinite = true := fun haxis point hpoint =>
    h.finite point hpoint _ (List.mem_of_getElem? (getElem_coordinate (haxis point hpoint)))
  have hmema := List.mem_of_getElem? ha
  have hmemb := List.mem_of_getElem? hb
  refine ⟨_, _, getElem_draw ha, getElem_draw hb, fun hscale => ?_, fun hscale => ?_⟩
  · exact placed_across hwidth hmargin h.roomy.across (hcoordinate h.across) hmema hmemb hscale
  · exact (placed_across hheight hmargin h.roomy.up (hcoordinate h.up) hmema hmemb hscale).flip hheight

theorem roomy_default : Viewport.default.Roomy := ⟨by decide, by decide, by decide⟩

theorem drawn_in_order_upward :
    Drawable Viewport.default [[0, 1], [2, 3]] 0 1 ∧
      ∃ p : Projection, make Viewport.default [[0, 1], [2, 3]] 0 1 = .ok p ∧
        ∃ s t : DrawnPoint, p.points[0]? = some s ∧ p.points[1]? = some t ∧ s.x ≤ t.x ∧ t.y ≤ s.y := by
  have hdrawable : Drawable Viewport.default [[0, 1], [2, 3]] 0 1 :=
    ⟨roomy_default, by decide, by decide, by decide, by decide⟩
  obtain ⟨p, hp, hpoints⟩ := drawn_in_order hdrawable
  obtain ⟨s, t, hs, ht, hacross, hup⟩ := hpoints 0 1 [0, 1] [2, 3] rfl rfl
  refine ⟨hdrawable, p, hp, s, t, hs, ht, ?_⟩
  obtain rfl : _ = p := Except.ok.inj hp
  obtain rfl : _ = s := Option.some.inj hs
  obtain rfl : _ = t := Option.some.inj ht
  exact ⟨(hacross (by decide +kernel)).forward (by decide) (by decide),
    (hup (by decide +kernel)).forward (by decide) (by decide)⟩

/-- With negative coordinates only, the order is lost, and so it is with a zero coordinate beside ones
that are tiny. -/
theorem order_lost :
    (Drawable Viewport.default [[-2, 0], [-1, 1]] 0 1 ∧ (-2 : Float) ≤ -1 ∧
      ∃ p : Projection, make Viewport.default [[-2, 0], [-1, 1]] 0 1 = .ok p ∧
        ∃ s t : DrawnPoint, p.points[0]? = some s ∧ p.points[1]? = some t ∧ ¬ s.x ≤ t.x) ∧
    (Drawable Viewport.default [[0, 0], [5e-324, 1]] 0 1 ∧ (0 : Float) ≤ 5e-324 ∧
      ∃ p : Projection, make Viewport.default [[0, 0], [5e-324, 1]] 0 1 = .ok p ∧
        ∃ s t : DrawnPoint, p.points[0]? = some s ∧ p.points[1]? = some t ∧ ¬ s.x ≤ t.x) := by
  constructor
  · refine ⟨⟨roomy_default, by decide, by decide, by decide, by decide⟩, by decide, ?_⟩
    exact ⟨_, rfl, _, _, rfl, rfl, by decide +kernel⟩
  · refine ⟨⟨roomy_default, by decide +kernel, by decide, by decide, by decide⟩, by decide +kernel, ?_⟩
    exact ⟨_, rfl, _, _, rfl, rfl, by decide +kernel⟩

end Projection

end Tableaux
