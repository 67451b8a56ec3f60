import Tableaux.Json.Value
import Tableaux.Program

/-! # Drawing a trajectory

The points of a run have a coordinate per variable. Two variables are chosen as axes, and the points
are scaled into a rectangle with the origin at its bottom left.
-/
namespace Tableaux

/-- A rectangle with a margin on every side, in pixels. -/
structure Viewport where
  width : Float
  height : Float
  margin : Float
deriving DecidableEq, Repr

def Viewport.default : Viewport := ⟨600, 400, 50⟩

def Projection.label (axis : Nat) : String := s!"x{shownNumber axis}"

/-- Why two axes cannot be drawn. Axes count from zero. -/
inductive AxisError where
  | identical (axis : Nat)
  | outOfRange (axis dimension : Nat)
deriving DecidableEq, Repr

def AxisError.message : AxisError → String
  | .identical axis =>
    s!"Please select two different variables, {Projection.label axis} was selected twice."
  | .outOfRange axis dimension =>
    s!"Variable {Projection.label axis} doesn't exist, the path has {dimension} variables."

inductive Marker where
  | visited
  | terminal
deriving DecidableEq, Repr

def Marker.name : Marker → String
  | .visited => "visited"
  | .terminal => "terminal"

structure DrawnPoint where
  index : Nat
  x : Float
  y : Float
  marker : Marker
deriving DecidableEq, Repr

structure Projection where
  horizontal : Nat
  vertical : Nat
  labels : String × String
  points : List DrawnPoint
deriving DecidableEq, Repr

namespace Projection

/-- The largest coordinate. NaN is passed over. -/
def largest (coordinates : List Float) : Float :=
  coordinates.foldl (fun m x => if m < x then x else m) (-1.0 / 0.0)

/-- The coordinate that is drawn at the far end of an axis: the largest one, or one if that is zero
or not finite. -/
def farEnd (coordinates : List Float) : Float :=
  let m := largest coordinates
  if m == 0 || !m.isFinite then 1 else m

def coordinate (axis : Nat) (point : List Float) : Float := point.getD axis 0

/-- The number of coordinates that all points have, if there are points. -/
def dimension? (trajectory : List (List Float)) : Option Nat :=
  (trajectory.map List.length).min?

def missingAxis? (trajectory : List (List Float)) (axes : List Nat) : Option (Nat × Nat) :=
  match dimension? trajectory with
  | none => none
  | some dimension => (axes.find? (dimension ≤ ·)).map (·, dimension)

/-- Draws the points of a trajectory. The last one is the solution that the run ended with. -/
def draw (viewport : Viewport) (trajectory : List (List Float)) (horizontal vertical : Nat) :
    Projection :=
  let scaleX := (viewport.width - 2 * viewport.margin)
    / farEnd (trajectory.map (coordinate horizontal))
  let scaleY := (viewport.height - 2 * viewport.margin)
    / farEnd (trajectory.map (coordinate vertical))
  { horizontal := horizontal
    vertical := vertical
    labels := (label horizontal, label vertical)
    points := trajectory.mapIdx fun index point =>
      { index := index
        x := viewport.margin + coordinate horizontal point * scaleX
        y := viewport.height - (viewport.margin + coordinate vertical point * scaleY)
        marker := if index + 1 = trajectory.length then .terminal else .visited } }

def make (viewport : Viewport) (trajectory : List (List Float)) (horizontal vertical : Nat) :
    Except AxisError Projection :=
  if horizontal = vertical then .error (.identical horizontal)
  else
    match missingAxis? trajectory [horizontal, vertical] with
    | some (axis, dimension) => .error (.outOfRange axis dimension)
    | none => .ok (draw viewport trajectory horizontal vertical)

open Json (ofFloat ofList ofNat ofString record)

def pointJson (p : DrawnPoint) : Json.Value :=
  record [("index", ofNat p.index), ("x", ofFloat p.x), ("y", ofFloat p.y),
    ("marker", ofString p.marker.name)]

def json (p : Projection) : Json.Value :=
  record [("axes", ofList ofNat [p.horizontal, p.vertical]),
    ("labels", ofList ofString [p.labels.1, p.labels.2]),
    ("points", ofList pointJson p.points)]

end Projection

end Tableaux
