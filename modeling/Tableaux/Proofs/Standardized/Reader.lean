import Tableaux.Proofs.Reading.Number
import Tableaux.Proofs.Shape
import Tableaux.Standardized

/-!
# Reading standardized notation line by line

A draft is the invariant of the loop over the lines: what holds of every number that is
read holds of every number of the draft, and hence of the program made of it.
-/
namespace Tableaux.Standardized

open Reading (Recorded ReadError Reads Yields readReal)
open Text (Line pieces trim cut? lowercase)

variable {leniency : Leniency} {P : Float → Prop} {E : ReadError → Prop}

structure Draft.Has (P : Float → Prop) (d : Draft) : Prop where
  constraints : ∀ rows ∈ d.constraints, ∀ row ∈ rows, ∀ x ∈ row, P x
  rhs : ∀ values ∈ d.rhs, ∀ x ∈ values, P x

theorem empty_has (P : Float → Prop) : Draft.empty.Has P where
  constraints rows h := by cases h
  rhs values h := by cases h

theorem readNumbers_outcome (leniency : Leniency) (line : Line) (text : List Char) :
    (readNumbers leniency line text).outcome =
      (pieces ',' text).mapM fun piece => (readReal leniency line piece).outcome :=
  Recorded.outcome_mapM _ _

theorem readNumbers_yields (h : Reads leniency P E) (line : Line) (text : List Char) :
    Yields (fun values => ∀ x ∈ values, P x) E (readNumbers leniency line text).outcome := by
  rw [readNumbers_outcome]
  exact Yields.mapM fun piece _ => h.real line piece

theorem readConstraints_outcome (leniency : Leniency) (line : Line) (draft : Draft)
    (value : List Char) :
    (readValue leniency line draft value .constraints).outcome =
      ((pieces ';' value).mapM fun piece => (readNumbers leniency line piece).outcome) >>=
        fun rows => .ok { draft with constraints := some rows } := by
  rw [readValue, Recorded.outcome_bind, Recorded.outcome_mapM]
  rfl

theorem readRhs_outcome (leniency : Leniency) (line : Line) (draft : Draft)
    (value : List Char) :
    (readValue leniency line draft value .rhs).outcome =
      (readNumbers leniency line value).outcome >>=
        fun values => .ok { draft with rhs := some values } := by
  rw [readValue, Recorded.outcome_bind]
  rfl

theorem readValue_yields (h : Reads leniency P E) (line : Line) {draft : Draft}
    (hd : draft.Has P) (value : List Char) (key : Key) :
    Yields (Draft.Has P) E (readValue leniency line draft value key).outcome := by
  cases key with
  | cost => exact ⟨hd.constraints, hd.rhs⟩
  | constraints =>
    rw [readConstraints_outcome]
    apply (Yields.mapM fun piece _ => readNumbers_yields h line piece).bind
    intro rows hrows
    refine ⟨?_, hd.rhs⟩
    intro rows' hr
    cases hr
    exact hrows
  | rhs =>
    rw [readRhs_outcome]
    apply (readNumbers_yields h line value).bind
    intro values hvalues
    refine ⟨hd.constraints, ?_⟩
    intro values' hv
    cases hv
    exact hvalues
  | direction => exact ⟨hd.constraints, hd.rhs⟩
  | pivotRule => exact ⟨hd.constraints, hd.rhs⟩

def keyed? (line : Line) : Option (Key × List Char) :=
  (cut? ':' line.text).bind fun (name, value) =>
    (Key.ofName? (String.ofList (lowercase (trim name)))).map (·, trim value)

/-- A line gives a value to its key. Without key it leaves the draft as it is. -/
theorem readLine_outcome (leniency : Leniency) (draft : Draft) (line : Line) :
    (readLine leniency draft line).outcome = match keyed? line with
      | some (key, value) => (readValue leniency line draft value key).outcome
      | none => .ok draft := by
  unfold readLine keyed?
  cases cut? ':' line.text with
  | none => rfl
  | some parts =>
    obtain ⟨name, value⟩ := parts
    dsimp only [Option.bind_some]
    cases Key.ofName? (String.ofList (lowercase (trim name))) with
    | none => rfl
    | some key => rfl

theorem readLine_cases (line : Line) :
    (∃ value key, ∀ leniency draft, (readLine leniency draft line).outcome =
      (readValue leniency line draft value key).outcome) ∨
    ∀ leniency draft, (readLine leniency draft line).outcome = .ok draft := by
  simp only [readLine_outcome]
  cases keyed? line with
  | none => exact Or.inr fun _ _ => rfl
  | some entry => exact Or.inl ⟨entry.2, entry.1, fun _ _ => rfl⟩

theorem readLine_yields (h : Reads leniency P E) (line : Line) {draft : Draft}
    (hd : draft.Has P) : Yields (Draft.Has P) E (readLine leniency draft line).outcome := by
  rcases readLine_cases line with ⟨value, key, hv⟩ | hs
  · rw [hv]
    exact readValue_yields h line hd value key
  · rw [hs]
    exact hd

def Draft.full (parts : Program.Parts) : Draft :=
  ⟨some parts.cost, some parts.constraints, some parts.rhs, parts.direction, parts.pivotRule⟩

theorem finish_cases (draft : Draft) :
    ((∀ parts, draft ≠ .full parts) ∧ ∃ field, draft.finish = .error (.missingField field)) ∨
    ∃ parts, draft = .full parts ∧ draft.finish = parts.make.mapError .inconsistent := by
  obtain ⟨cost, constraints, rhs, direction, pivotRule⟩ := draft
  cases cost with
  | none => exact Or.inl ⟨(fun parts h => by cases h), .cost, rfl⟩
  | some cost =>
    cases constraints with
    | none => exact Or.inl ⟨(fun parts h => by cases h), .constraints, rfl⟩
    | some constraints =>
      cases rhs with
      | none => exact Or.inl ⟨(fun parts h => by cases h), .rhs, rfl⟩
      | some rhs => exact Or.inr ⟨⟨cost, constraints, rhs, direction, pivotRule⟩, rfl, rfl⟩

theorem finish_yields {draft : Draft} (hd : draft.Has P) (hE : ∀ e, ¬ e.IsRefusal → E e) :
    Yields (Program.Numbers P) E draft.finish := by
  rcases finish_cases draft with ⟨-, field, hf⟩ | ⟨parts, rfl, hf⟩
  · rw [hf]
    exact hE _ id
  · rw [hf]
    cases hm : parts.make with
    | error s => exact hE _ id
    | ok p =>
      obtain ⟨-, rfl⟩ := Program.make_ok_iff.mp hm
      exact ⟨hd.constraints _ rfl, hd.rhs _ rfl⟩

theorem read_outcome (leniency : Leniency) (text : List Char) :
    (read leniency text).outcome =
      ((Text.lines text).foldlM (fun draft line => (readLine leniency draft line).outcome)
        .empty) >>= Draft.finish := by
  rw [read, Recorded.outcome_bind, Recorded.outcome_foldlM]
  rfl

theorem read_yields (h : Reads leniency P E) (hE : ∀ e, ¬ e.IsRefusal → E e)
    (text : List Char) : Yields (Program.Numbers P) E (read leniency text).outcome := by
  rw [read_outcome]
  apply (Yields.foldlM (empty_has P) fun line _ draft hd => readLine_yields h line hd).bind
  intro draft hd
  exact finish_yields hd hE

end Tableaux.Standardized
