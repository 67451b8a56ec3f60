import Tableaux.Proofs.Copt.Requoted
import Tableaux.Proofs.Expression.Variable
import Tableaux.Proofs.Standardized.Reader
import Tableaux.Storage.Import

/-!
# Layout

A text is read by its trimmed lines, of which blank ones are left out. Where these lines
stand only shows in the line numbers of errors: each reader gives the same result, or an
error that is the same but for its number, if the numbers of its lines are taken away.
-/
namespace Tableaux

namespace Text

/-- The trimmed lines of a text that are not blank. -/
def filled (text : List Char) : List (List Char) :=
  ((pieces '\n' text).map trim).filter (· ≠ [])

/-- Where these lines stand in the text, counting from one. -/
def positions (text : List Char) : List Nat :=
  (((pieces '\n' text).zipIdx 1).filter fun (piece, _) => trim piece ≠ []).map (·.2)

theorem lines_eq (text : List Char) :
    lines text = (((pieces '\n' text).zipIdx 1).filter fun (piece, _) => trim piece ≠ []).map
      fun (piece, number) => ⟨number, trim piece⟩ := by
  unfold lines
  induction (pieces '\n' text).zipIdx 1 with
  | nil => rfl
  | cons entry others ih =>
    by_cases hblank : trim entry.1 = []
    · simp [hblank, ih]
    · simp [hblank, ih]

theorem lines_text (text : List Char) : (lines text).map (·.text) = filled text := by
  have hpieces : filled text
      = ((((pieces '\n' text).zipIdx 1).map (·.1)).map trim).filter (· ≠ []) := by
    rw [List.zipIdx_map_fst, filled]
  rw [lines_eq, hpieces, List.map_map, List.map_map, List.filter_map]
  rfl

theorem lines_number (text : List Char) : (lines text).map (·.number) = positions text := by
  rw [lines_eq, List.map_map]
  rfl

theorem zip_number_text (ls : List Line) :
    List.zipWith Line.mk (ls.map (·.number)) (ls.map (·.text)) = ls := by
  induction ls with
  | nil => rfl
  | cons line ls ih => rw [List.map_cons, List.map_cons, List.zipWith_cons_cons, ih]

theorem lines_congr {a b : List Char} (hf : filled a = filled b) (hp : positions a = positions b) :
    lines a = lines b := by
  rw [← zip_number_text (lines a), ← zip_number_text (lines b), lines_text, lines_text,
    lines_number, lines_number, hf, hp]

def Line.unnumbered (line : Line) : Line := { line with number := 0 }

theorem unnumbered_lines {a b : List Char} (h : filled a = filled b) :
    (lines a).map Line.unnumbered = (lines b).map Line.unnumbered := by
  have hline : Line.unnumbered = Line.mk 0 ∘ Line.text := rfl
  rw [hline, ← List.map_map, ← List.map_map, lines_text, lines_text, h]

end Text

namespace Reading

open Text (Line trim)

def ReadError.unnumbered : ReadError → ReadError
  | .malformedNumber token line => .malformedNumber token line.unnumbered
  | .missingRelation line => .missingRelation line.unnumbered
  | e => e

/-- Equal results, or errors that agree in everything but line numbers. -/
def Alike {α : Type} : Except ReadError α → Except ReadError α → Prop
  | .ok a, .ok b => a = b
  | .error e, .error f => e.unnumbered = f.unnumbered
  | _, _ => False

theorem Alike.refl {α : Type} (r : Except ReadError α) : Alike r r := by
  cases r with
  | ok a => exact rfl
  | error e => exact rfl

theorem Alike.symm {α : Type} {r s : Except ReadError α} (h : Alike r s) : Alike s r := by
  cases r with
  | ok a =>
    cases s with
    | ok b => exact Eq.symm h
    | error f => exact h
  | error e =>
    cases s with
    | ok b => exact h
    | error f => exact Eq.symm h

theorem Alike.trans {α : Type} {r s t : Except ReadError α} (h : Alike r s) (k : Alike s t) :
    Alike r t := by
  cases r with
  | ok a =>
    cases s with
    | ok b => obtain rfl := h; exact k
    | error f => exact h.elim
  | error e =>
    cases s with
    | ok b => exact h.elim
    | error f =>
      cases t with
      | ok c => exact k.elim
      | error g => exact Eq.trans h k

theorem Alike.bind {α β : Type} {r s : Except ReadError α} {f g : α → Except ReadError β}
    (h : Alike r s) (hfg : ∀ a, Alike (f a) (g a)) : Alike (r >>= f) (s >>= g) := by
  cases r with
  | ok a =>
    cases s with
    | ok b => obtain rfl := h; exact hfg a
    | error e => exact h.elim
  | error e =>
    cases s with
    | ok b => exact h.elim
    | error f => exact h

theorem alike_sequential : Sequential Alike := ⟨.refl, .bind⟩

/-- Errors do not differ if they only quote their lines without numbers. -/
theorem Alike.requoted {α : Type} (r : Except ReadError α) :
    Alike r (r.mapError (.requote Line.unnumbered)) := by
  cases r with
  | ok a => exact rfl
  | error e => cases e <;> exact rfl

theorem readReal_alike (leniency : Leniency) (line : Line) (text : List Char) :
    Alike (readReal leniency line text).outcome
      (readReal leniency line.unnumbered text).outcome := by
  rw [readReal_requote]
  exact .requoted _

end Reading

open Reading (Alike Recorded ReadError Sequential readReal alike_sequential)
open Text (Line filled lines positions)

namespace Standardized

theorem readNumbers_alike (leniency : Leniency) (line : Line) (text : List Char) :
    Alike (readNumbers leniency line text).outcome
      (readNumbers leniency line.unnumbered text).outcome := by
  rw [readNumbers_outcome, readNumbers_outcome]
  exact alike_sequential.mapM (Reading.readReal_alike leniency line) _

theorem readValue_alike (leniency : Leniency) (line : Line) (draft : Draft) (value : List Char)
    (key : Key) : Alike (readValue leniency line draft value key).outcome
      (readValue leniency line.unnumbered draft value key).outcome := by
  cases key with
  | cost => exact .refl _
  | constraints =>
    rw [readConstraints_outcome, readConstraints_outcome]
    apply (alike_sequential.mapM (readNumbers_alike leniency line) _).bind
    intro rows
    exact .refl _
  | rhs =>
    rw [readRhs_outcome, readRhs_outcome]
    apply (readNumbers_alike leniency line value).bind
    intro values
    exact .refl _
  | direction => exact .refl _
  | pivotRule => exact .refl _

theorem readLine_alike (leniency : Leniency) (draft : Draft) (line : Line) :
    Alike (readLine leniency draft line).outcome
      (readLine leniency draft line.unnumbered).outcome := by
  have hkey : keyed? line.unnumbered = keyed? line := rfl
  rw [readLine_outcome, readLine_outcome, hkey]
  cases keyed? line with
  | none => exact .refl _
  | some entry => exact readValue_alike leniency line draft entry.2 entry.1

def outcomeOf (leniency : Leniency) (ls : List Line) : Except ReadError Program :=
  ls.foldlM (fun draft line => (readLine leniency draft line).outcome) .empty >>= Draft.finish

theorem outcomeOf_alike (leniency : Leniency) (ls : List Line) :
    Alike (outcomeOf leniency ls) (outcomeOf leniency (ls.map Line.unnumbered)) := by
  unfold outcomeOf
  rw [List.foldlM_map]
  apply (alike_sequential.foldlM (readLine_alike leniency) ls .empty).bind
  intro draft
  exact .refl _

theorem read_alike (leniency : Leniency) {a b : List Char} (h : filled a = filled b) :
    Alike (read leniency a).outcome (read leniency b).outcome := by
  rw [read_outcome, read_outcome]
  have hb := outcomeOf_alike leniency (lines b)
  rw [← Text.unnumbered_lines h] at hb
  exact (outcomeOf_alike leniency (lines a)).trans hb.symm

theorem read_congr (leniency : Leniency) {a b : List Char} (h : lines a = lines b) :
    read leniency a = read leniency b := by
  rw [read, h, read]

end Standardized

namespace Copt

open Expression (largestVariable? variableNumbers)

theorem readAlike_unnumbered (line : Line) : ReadAlike Line.unnumbered line := ⟨rfl, rfl⟩

def Place.unnumbered (place : Place) : Place := { place with line := place.line.unnumbered }

theorem outlineBelow_unnumbered (part : Part) (ls : List Line) :
    outlineBelow part (ls.map Line.unnumbered) = (outlineBelow part ls).map Place.unnumbered :=
  outlineBelow_requote (fun line _ => readAlike_unnumbered line) part

theorem readBody_alike (leniency : Leniency) (width : Nat) (places : List Place) :
    Alike (readBody leniency width places).outcome
      (readBody leniency width (places.map Place.unnumbered)).outcome := by
  have hbody : (readBody leniency width (places.map Place.unnumbered)).outcome =
      (readBody leniency width places).outcome.mapError (.requote Line.unnumbered) :=
    readBody_requote leniency width fun place _ => readAlike_unnumbered place.line
  rw [hbody]
  exact .requoted _

theorem variableNumbers_filled (text : List Char) :
    (filled text).flatMap variableNumbers = variableNumbers text := by
  rw [← Expression.variableNumbers_lines, ← Text.lines_text, List.flatMap_map]

theorem largestVariable_congr {a b : List Char} (h : filled a = filled b) :
    largestVariable? a = largestVariable? b := by
  rw [largestVariable?, ← variableNumbers_filled, h, variableNumbers_filled, largestVariable?]

theorem read_alike (leniency : Leniency) {a b : List Char} (h : filled a = filled b) :
    Alike (read leniency a).outcome (read leniency b).outcome := by
  have houtline : (outline a).map Place.unnumbered = (outline b).map Place.unnumbered := by
    rw [outline, outline, ← outlineBelow_unnumbered, ← outlineBelow_unnumbered,
      Text.unnumbered_lines h]
  unfold read
  rw [largestVariable_congr h]
  split
  · exact .refl _
  · exact .refl _
  · rename_i width _ _
    split
    · exact .refl _
    · have hb := readBody_alike leniency width (outline b)
      rw [← houtline] at hb
      exact (readBody_alike leniency width (outline a)).trans hb.symm

theorem read_congr (leniency : Leniency) {a b : List Char} (h : lines a = lines b) :
    read leniency a = read leniency b := by
  have hfilled : filled a = filled b := by
    rw [← Text.lines_text, h, Text.lines_text]
  rw [read, largestVariable_congr hfilled, outline, h]
  rfl

end Copt

/-- Texts with the same lines, trimmed and without blank ones, are read alike: they give the same
program, or errors that agree in everything but line numbers. If these lines also stand at the same
positions, even the numbers agree. -/
theorem layout_does_not_matter (format : Format) (leniency : Leniency) (a b : String)
    (h : filled a.toList = filled b.toList) :
    Alike (format.read leniency a).outcome (format.read leniency b).outcome ∧
    (positions a.toList = positions b.toList →
      (format.read leniency a).outcome = (format.read leniency b).outcome) := by
  constructor
  · cases format with
    | standardized => exact Standardized.read_alike leniency h
    | copt => exact Copt.read_alike leniency h
  · intro hp
    have hlines : lines a.toList = lines b.toList := Text.lines_congr h hp
    cases format with
    | standardized => exact congrArg Recorded.outcome (Standardized.read_congr leniency hlines)
    | copt => exact congrArg Recorded.outcome (Copt.read_congr leniency hlines)

/-- With blank lines and blanks of several kinds, a number that cannot be read is found on another
line. With other line ends it is found on the same one. -/
theorem layouts_agree :
    Alike (Format.standardized.read .strict "c: 1\nA: y\nb: 2").outcome
      (Format.standardized.read .strict "\n\u2003c: 1\n\n\t A: y\x0b\nb: 2\u00a0").outcome ∧
    (Format.standardized.read .strict "c: 1\nA: y\nb: 2").outcome
      = (Format.standardized.read .strict "c: 1\r\n  A: y\r\nb: 2\r\n").outcome := by
  constructor
  · exact (layout_does_not_matter .standardized .strict _ _ (by decide +kernel)).1
  · apply (layout_does_not_matter .standardized .strict _ _ (by decide +kernel)).2
    decide +kernel

end Tableaux
