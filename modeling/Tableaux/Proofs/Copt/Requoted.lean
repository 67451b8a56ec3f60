import Tableaux.Proofs.Copt.Reader
import Tableaux.Proofs.Reading.Quote

/-!
# Lines that are read alike

What is read of a line is what stands behind its label, and whether it is a header. If lines are
changed in a way that keeps these, a text is read as before, and errors quote the changed lines.
-/
namespace Tableaux.Copt

open Expression (Term terms)
open Reading (ReadError Recorded mapError_bind mapError_mapM readReal readReal_requote)
open Text (Line pieces)

/-- The line is read as it was before the change: it has the same text behind its label and is the
same kind of header, if any. -/
structure ReadAlike (f : Line → Line) (line : Line) : Prop where
  body : afterLabel (f line).text = afterLabel line.text
  header : Header.ofLine? (f line) = Header.ofLine? line

def Place.requote (f : Line → Line) (place : Place) : Place := { place with line := f place.line }

variable {f : Line → Line}

theorem readEntry_requote (leniency : Leniency) (line : Line) (t : Term) :
    (readEntry leniency (f line) t).outcome =
      (readEntry leniency line t).outcome.mapError (.requote f) := by
  cases hcol : t.column? with
  | none =>
    rw [readEntry_none hcol, readEntry_none hcol]
    rfl
  | some column =>
    rw [readEntry_some hcol, readEntry_some hcol, readReal_requote, mapError_bind]
    rfl

theorem constraintOf_requote (leniency : Leniency) (width : Nat) (line : Line)
    (left right : List Char) : constraintOf leniency width (f line) left right =
      (constraintOf leniency width line left right).mapError (.requote f) := by
  have hentries : ((terms left).mapM fun t => (readEntry leniency (f line) t).outcome) =
      ((terms left).mapM fun t => (readEntry leniency line t).outcome).mapError (.requote f) :=
    mapError_mapM fun t _ => readEntry_requote leniency line t
  rw [constraintOf, constraintOf, hentries, mapError_bind]
  congr 1
  funext entries
  rw [readReal_requote, mapError_bind]
  rfl

theorem readConstraint_requote (leniency : Leniency) (width : Nat) {line : Line}
    (h : afterLabel (f line).text = afterLabel line.text) :
    (readConstraint leniency width (f line)).outcome =
      (readConstraint leniency width line).outcome.mapError (.requote f) := by
  by_cases hcut : ∃ left right others,
      pieces '=' (afterLabel line.text) = left :: right :: others
  · obtain ⟨left, right, others, hcut⟩ := hcut
    have hcut' : pieces '=' (afterLabel (f line).text) = left :: right :: others := by rw [h, hcut]
    rw [readConstraint_cut hcut, readConstraint_cut hcut', constraintOf_requote]
  · push Not at hcut
    have hcut' : ∀ left right others,
        pieces '=' (afterLabel (f line).text) ≠ left :: right :: others := by rwa [h]
    cases leniency with
    | lenient =>
      rw [(readConstraint_uncut width hcut).1, (readConstraint_uncut width hcut').1]
      rfl
    | strict =>
      rw [(readConstraint_uncut width hcut).2, (readConstraint_uncut width hcut').2]
      rfl

theorem outlineBelow_requote {ls : List Line} (h : ∀ line ∈ ls, ReadAlike f line) (part : Part) :
    outlineBelow part (ls.map f) = (outlineBelow part ls).map (Place.requote f) := by
  induction ls generalizing part with
  | nil => rfl
  | cons line ls ih =>
    have hls := ih fun l hl => h l (List.mem_cons_of_mem _ hl)
    rw [List.map_cons, outlineBelow, (h line List.mem_cons_self).header, hls, outlineBelow,
      List.map_cons]
    rfl

theorem linesOf_requote (part : Part) (places : List Place) :
    linesOf part (places.map (Place.requote f)) = (linesOf part places).map f := by
  rw [linesOf, List.filter_map, List.map_map, linesOf, List.map_map]
  rfl

theorem direction_requote (places : List Place) :
    direction (places.map (Place.requote f)) = direction places := by
  rw [direction, List.filterMap_map]
  rfl

theorem objectiveFragments_requote {places : List Place}
    (h : ∀ place ∈ places, ReadAlike f place.line) :
    objectiveFragments (places.map (Place.requote f)) = objectiveFragments places := by
  rw [objectiveFragments, List.filter_map, List.map_map, objectiveFragments]
  apply List.map_congr_left
  intro place hplace
  exact (h place (List.mem_filter.mp hplace).1).body

theorem readBody_requote (leniency : Leniency) (width : Nat) {places : List Place}
    (h : ∀ place ∈ places, ReadAlike f place.line) :
    (readBody leniency width (places.map (Place.requote f))).outcome =
      (readBody leniency width places).outcome.mapError (.requote f) := by
  have hlines : ∀ line ∈ linesOf .constraints places,
      (readConstraint leniency width (f line)).outcome =
        (readConstraint leniency width line).outcome.mapError (.requote f) := by
    intro line hline
    obtain ⟨place, hplace, rfl⟩ := List.mem_map.mp hline
    exact readConstraint_requote leniency width (h place (List.mem_filter.mp hplace).1).body
  rw [readBody_outcome, readBody_outcome, linesOf_requote, objectiveFragments_requote h,
    direction_requote, List.mapM_map, mapError_bind, ← mapError_mapM hlines]
  congr 1
  funext read
  -- What does not fit together is no line.
  cases Program.make _ _ _ _ _ <;> rfl

end Tableaux.Copt
