import Tableaux.Proofs.Copt.Filing
import Tableaux.Proofs.Standardized.Reader

/-!
# The last line of each key

A text in standardized notation is read if all its numbers can be read. The draft that
comes out of it consists of the values behind the last line of each key, and it is made
into a program if no part is missing and the parts fit together.
-/
namespace Tableaux.Standardized

open Copt (lenientValue)
open Program (Parts)
open Reading (Legible ReadError readReal)
open Text (Line lines pieces trim)

def termsOf (value : List Char) : List String :=
  (pieces ',' value).map fun t => String.ofList (trim t)

def numbersOf (value : List Char) : List Float := (pieces ',' value).map lenientValue

def rowsOf (value : List Char) : List (List Float) := (pieces ';' value).map numbersOf

def numberTokens (line : Line) : List (List Char) :=
  match keyed? line with
  | some (.constraints, value) => (pieces ';' value).flatMap (pieces ',')
  | some (.rhs, value) => pieces ',' value
  | _ => []

def LegibleLine (leniency : Leniency) (line : Line) : Prop :=
  ∀ token ∈ numberTokens line, Legible leniency token

def Draft.give (draft : Draft) (line : Line) : Draft :=
  match keyed? line with
  | some (.cost, value) => { draft with cost := some (termsOf value) }
  | some (.constraints, value) => { draft with constraints := some (rowsOf value) }
  | some (.rhs, value) => { draft with rhs := some (numbersOf value) }
  | some (.direction, value) => { draft with direction := readDirection value }
  | some (.pivotRule, value) => { draft with pivotRule := readPivotRule value }
  | none => draft

variable {leniency : Leniency}

theorem readNumbers_ok {value : List Char} (h : ∀ token ∈ pieces ',' value, Legible leniency token)
    (line : Line) : (readNumbers leniency line value).outcome = .ok (numbersOf value) := by
  rw [readNumbers_outcome]
  apply Reading.mapM_ok
  intro token htoken
  exact Reading.readReal_of_legible (h token htoken) line

theorem legible_of_readNumbers {line : Line} {value : List Char} {xs : List Float}
    (h : (readNumbers leniency line value).outcome = .ok xs) :
    ∀ token ∈ pieces ',' value, Legible leniency token := by
  rw [readNumbers_outcome] at h
  intro token htoken
  obtain ⟨x, hx⟩ := Reading.ok_of_mapM h token htoken
  exact Reading.legible_of_readReal hx

theorem readLine_ok {line : Line} (h : LegibleLine leniency line) (draft : Draft) :
    (readLine leniency draft line).outcome = .ok (draft.give line) := by
  unfold LegibleLine numberTokens at h
  rw [readLine_outcome, Draft.give]
  cases hkey : keyed? line with
  | none => rfl
  | some entry =>
    obtain ⟨key, value⟩ := entry
    rw [hkey] at h
    cases key with
    | cost => rfl
    | constraints =>
      have hrows : ((pieces ';' value).mapM fun piece => (readNumbers leniency line piece).outcome)
          = .ok (rowsOf value) := by
        apply Reading.mapM_ok
        intro piece hpiece
        apply readNumbers_ok
        intro token ht
        exact h token (List.mem_flatMap.mpr ⟨piece, hpiece, ht⟩)
      dsimp only
      rw [readConstraints_outcome, hrows]
      rfl
    | rhs =>
      dsimp only
      rw [readRhs_outcome, readNumbers_ok h]
      rfl
    | direction => rfl
    | pivotRule => rfl

theorem legible_of_readLine {line : Line} {draft d : Draft}
    (h : (readLine leniency draft line).outcome = .ok d) : LegibleLine leniency line := by
  unfold LegibleLine numberTokens
  rw [readLine_outcome] at h
  cases hkey : keyed? line with
  | none => exact fun token ht => absurd ht List.not_mem_nil
  | some entry =>
    obtain ⟨key, value⟩ := entry
    rw [hkey] at h
    cases key with
    | constraints =>
      dsimp only at h
      rw [readConstraints_outcome] at h
      obtain ⟨rows, hrows, -⟩ := Reading.bind_ok_iff.mp h
      intro token ht
      obtain ⟨piece, hpiece, ht⟩ := List.mem_flatMap.mp ht
      obtain ⟨xs, hxs⟩ := Reading.ok_of_mapM hrows piece hpiece
      exact legible_of_readNumbers hxs token ht
    | rhs =>
      dsimp only at h
      rw [readRhs_outcome] at h
      obtain ⟨xs, hxs, -⟩ := Reading.bind_ok_iff.mp h
      exact legible_of_readNumbers hxs
    | cost => exact fun token ht => absurd ht List.not_mem_nil
    | direction => exact fun token ht => absurd ht List.not_mem_nil
    | pivotRule => exact fun token ht => absurd ht List.not_mem_nil

/-- The value behind the last line with a key. -/
def lastValue? (key : Key) (ls : List Line) : Option (List Char) :=
  lastGiven? (ls.filterMap keyed?) key

theorem lastValue_append (key : Key) (ls : List Line) (line : Line) :
    lastValue? key (ls ++ [line]) = match keyed? line with
      | some (k, value) => if k = key then some value else lastValue? key ls
      | none => lastValue? key ls := by
  rw [lastValue?, List.filterMap_append]
  cases h : keyed? line with
  | none => rw [List.filterMap_cons_none h, List.filterMap_nil, List.append_nil, lastValue?]
  | some entry =>
    rw [List.filterMap_cons_some h, List.filterMap_nil, lastGiven_append, lastValue?]

/-- The draft that the last lines make up. -/
def draftOf (ls : List Line) : Draft where
  cost := (lastValue? .cost ls).map termsOf
  constraints := (lastValue? .constraints ls).map rowsOf
  rhs := (lastValue? .rhs ls).map numbersOf
  direction := ((lastValue? .direction ls).map readDirection).getD .minimize
  pivotRule := ((lastValue? .pivotRule ls).map readPivotRule).getD .bland

theorem foldl_give (ls : List Line) : ls.foldl Draft.give .empty = draftOf ls := by
  induction ls using List.reverseRecOn with
  | nil => rfl
  | append_singleton ls line ih =>
    rw [List.foldl_append, ih, List.foldl_cons, List.foldl_nil, Draft.give, draftOf, draftOf]
    simp only [lastValue_append]
    cases keyed? line with
    | none => rfl
    | some entry =>
      obtain ⟨key, value⟩ := entry
      cases key <;> rfl

theorem readLines_cases (leniency : Leniency) (ls : List Line) :
    ((∀ line ∈ ls, LegibleLine leniency line) ∧
      ls.foldlM (fun draft line => (readLine leniency draft line).outcome) .empty
        = .ok (draftOf ls)) ∨
    ((¬ ∀ line ∈ ls, LegibleLine leniency line) ∧ ∃ e : ReadError, e.IsRefusal ∧
      ls.foldlM (fun draft line => (readLine leniency draft line).outcome) .empty = .error e) := by
  by_cases h : ∀ line ∈ ls, LegibleLine leniency line
  · refine Or.inl ⟨h, ?_⟩
    rw [Reading.foldlM_ok fun line hline draft => readLine_ok (h line hline) draft, foldl_give]
  · refine Or.inr ⟨h, ?_⟩
    have hyields : Reading.Yields (Draft.Has fun _ => True) ReadError.IsRefusal
        (ls.foldlM (fun draft line => (readLine leniency draft line).outcome) .empty) :=
      Reading.Yields.foldlM (empty_has fun _ => True) fun line _ draft hd =>
        readLine_yields (Reading.refusing_reads leniency) line hd
    cases hrun : ls.foldlM (fun draft line => (readLine leniency draft line).outcome) .empty with
    | ok draft =>
      refine absurd (fun line hline => ?_) h
      obtain ⟨d, e, hstep⟩ := Reading.ok_of_foldlM hrun line hline
      exact legible_of_readLine hstep
    | error e => exact ⟨e, hyields.error hrun, rfl⟩

/-- All numbers of a text can be read, and its last lines give all parts. -/
structure Gives (leniency : Leniency) (text : List Char) (parts : Parts) : Prop where
  legible : ∀ line ∈ lines text, LegibleLine leniency line
  draft : draftOf (lines text) = .full parts

theorem read_cases (leniency : Leniency) (text : List Char) :
    (∃ parts, Gives leniency text parts ∧
      (read leniency text).outcome = parts.make.mapError .inconsistent) ∨
    ((∀ parts, ¬ Gives leniency text parts) ∧
      ∃ e, (read leniency text).outcome = .error e ∧ ∀ s, e ≠ .inconsistent s) := by
  rw [read_outcome]
  rcases readLines_cases leniency (lines text) with ⟨hlegible, hrun⟩ | ⟨hlegible, e, he, hrun⟩
  · rw [hrun]
    change (∃ parts, _ ∧ (draftOf (lines text)).finish = _) ∨ (_ ∧ ∃ e, Draft.finish _ = _ ∧ _)
    rcases finish_cases (draftOf (lines text)) with ⟨hgap, field, hf⟩ | ⟨parts, hfull, hf⟩
    · refine Or.inr ⟨fun parts h => hgap parts h.draft, _, hf, ?_⟩
      intro s hs
      cases hs
    · exact Or.inl ⟨parts, ⟨hlegible, hfull⟩, hf⟩
  · rw [hrun]
    refine Or.inr ⟨fun parts h => hlegible h.legible, e, rfl, ?_⟩
    rintro s rfl
    exact he

theorem gives_unique {text : List Char} {parts others : Parts} (h : Gives leniency text parts)
    (k : Gives leniency text others) : parts = others := by
  have hboth := h.draft.symm.trans k.draft
  cases parts
  cases others
  simpa [Draft.full] using hboth

theorem read_ok_iff {text : List Char} {p : Program} :
    (read leniency text).outcome = .ok p ↔ Gives leniency text p.parts := by
  rcases read_cases leniency text with ⟨parts, hgives, hr⟩ | ⟨hnone, e, hr, -⟩
  · rw [hr]
    constructor
    · intro h
      cases hmake : parts.make with
      | error s => rw [hmake] at h; cases h
      | ok q =>
        rw [hmake] at h
        obtain rfl : q = p := Except.ok.inj h
        rw [(Program.make_ok_iff.mp hmake).2]
        exact hgives
    · intro h
      rw [gives_unique hgives h, Program.make_ok_iff.mpr ⟨p.parts_fit, rfl⟩]
      rfl
  · rw [hr]
    constructor
    · intro h
      cases h
    · intro h
      exact absurd h (hnone p.parts)

theorem read_inconsistent_iff {text : List Char} {s : ShapeError} :
    (read leniency text).outcome = .error (.inconsistent s) ↔
      ∃ parts, Gives leniency text parts ∧ parts.Misfit s := by
  rcases read_cases leniency text with ⟨parts, hgives, hr⟩ | ⟨hnone, e, hr, he⟩
  · rw [hr]
    constructor
    · intro h
      cases hmake : parts.make with
      | ok q => rw [hmake] at h; cases h
      | error t =>
        rw [hmake] at h
        obtain rfl : t = s := ReadError.inconsistent.inj (Except.error.inj h)
        exact ⟨parts, hgives, Program.misfit_of_make hmake⟩
    · rintro ⟨others, hothers, hmisfit⟩
      rw [gives_unique hgives hothers, Program.make_of_misfit hmisfit]
      rfl
  · rw [hr]
    constructor
    · intro h
      exact absurd (Except.error.inj h) (he s)
    · rintro ⟨parts, hgives, -⟩
      exact absurd hgives (hnone parts)

end Tableaux.Standardized
