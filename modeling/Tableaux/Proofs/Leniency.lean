import Tableaux.Proofs.Copt.Reader
import Tableaux.Proofs.Standardized.Reader
import Tableaux.Storage.Import

/-!
# Strict and lenient reading

In both notations strict reading refines lenient reading. Step by step the two runs
agree or the strict one refuses, so what is read strictly is read leniently too, with
finite numbers only, and an error of the lenient run is one of the strict run unless
that run refused the text before.
-/
namespace Tableaux

open Reading (Recorded ReadError Reads Refines Yields readReal)
open Text (Line pieces)

namespace Standardized

theorem readNumbers_refines (line : Line) (text : List Char) :
    Refines (readNumbers .strict line text).outcome (readNumbers .lenient line text).outcome := by
  rw [readNumbers_outcome, readNumbers_outcome]
  exact Refines.mapM (Reading.readReal_refines line) _

theorem readValue_refines (line : Line) (draft : Draft) (value : List Char) (key : Key) :
    Refines (readValue .strict line draft value key).outcome
      (readValue .lenient line draft value key).outcome := by
  cases key with
  | cost => exact .refl _
  | constraints =>
    rw [readConstraints_outcome, readConstraints_outcome]
    exact (Refines.mapM (readNumbers_refines line) _).bind fun rows => .refl _
  | rhs =>
    rw [readRhs_outcome, readRhs_outcome]
    exact (readNumbers_refines line value).bind fun values => .refl _
  | direction => exact .refl _
  | pivotRule => exact .refl _

theorem readLine_refines (draft : Draft) (line : Line) :
    Refines (readLine .strict draft line).outcome (readLine .lenient draft line).outcome := by
  rcases readLine_cases line with ⟨value, key, hv⟩ | hs
  · rw [hv, hv]
    exact readValue_refines line draft value key
  · rw [hs, hs]
    exact .refl _

theorem read_refines (text : List Char) :
    Refines (read .strict text).outcome (read .lenient text).outcome := by
  rw [read_outcome, read_outcome]
  exact (Refines.foldlM readLine_refines _ _).bind fun draft => .refl _

end Standardized

namespace Copt

open Expression (Term terms largestVariable?)

theorem readEntry_refines (line : Line) (t : Term) :
    Refines (readEntry .strict line t).outcome (readEntry .lenient line t).outcome := by
  cases hcol : t.column? with
  | none =>
    rw [readEntry_none hcol, readEntry_none hcol]
    exact .refl _
  | some column =>
    rw [readEntry_some hcol, readEntry_some hcol]
    exact (Reading.readReal_refines line t.coefficient).bind fun x => .refl _

theorem readConstraint_refines (width : Nat) (line : Line) :
    Refines (readConstraint .strict width line).outcome
      (readConstraint .lenient width line).outcome := by
  by_cases hcut : ∃ left right others,
      pieces '=' (afterLabel line.text) = left :: right :: others
  · obtain ⟨left, right, others, hcut⟩ := hcut
    rw [readConstraint_cut hcut, readConstraint_cut hcut]
    apply (Refines.mapM (readEntry_refines line) _).bind
    intro entries
    exact (Reading.readReal_refines line right).bind fun rhs => .refl _
  · push Not at hcut
    exact Or.inr ⟨_, (readConstraint_uncut width hcut).2, trivial⟩

theorem readBody_refines (width : Nat) (places : List Place) :
    Refines (readBody .strict width places).outcome
      (readBody .lenient width places).outcome := by
  rw [readBody_outcome, readBody_outcome]
  exact (Refines.mapM (readConstraint_refines width) _).bind fun read => .refl _

theorem read_refines (text : List Char) :
    Refines (read .strict text).outcome (read .lenient text).outcome := by
  unfold read
  split
  · exact .refl _
  · exact .refl _
  · split
    · exact .refl _
    · exact readBody_refines _ _

theorem read_yields {leniency : Leniency} {P : Float → Prop} {E : ReadError → Prop}
    (h : Reads leniency P E) (hE : ∀ e, ¬ e.IsRefusal → E e) (text : List Char) :
    Yields (Program.Numbers P) E (read leniency text).outcome := by
  rcases read_cases leniency text with ⟨width, -, -, -, hr⟩ | ⟨width, -, -, hr⟩ | ⟨-, hr⟩
  · rw [hr]
    exact (readBody_yields h width (outline text)).weaken (fun p hp => hp.2) fun e he => he
  · rw [hr]
    exact hE _ id
  · rw [hr]
    exact hE _ id

end Copt

theorem Format.read_refines (format : Format) (text : String) :
    Refines (format.read .strict text).outcome (format.read .lenient text).outcome := by
  cases format with
  | standardized => exact Standardized.read_refines text.toList
  | copt => exact Copt.read_refines text.toList

theorem Format.read_yields {leniency : Leniency} {P : Float → Prop} {E : ReadError → Prop}
    (h : Reads leniency P E) (hE : ∀ e, ¬ e.IsRefusal → E e) (format : Format)
    (text : String) : Yields (Program.Numbers P) E (format.read leniency text).outcome := by
  cases format with
  | standardized => exact Standardized.read_yields h hE text.toList
  | copt => exact Copt.read_yields h hE text.toList

/-- What is read strictly is read leniently as well, and its numbers are finite. An error
of lenient reading is never a refusal, and strict reading then fails with the same error
or with a refusal. -/
theorem strict_refines_lenient (format : Format) (text : String) :
    (∀ p, (format.read .strict text).outcome = .ok p →
      (format.read .lenient text).outcome = .ok p ∧
      (∀ row ∈ p.constraints, ∀ x ∈ row, x.isFinite = true) ∧
      ∀ x ∈ p.rhs, x.isFinite = true) ∧
    (∀ e, (format.read .lenient text).outcome = .error e →
      ∃ e', (format.read .strict text).outcome = .error e' ∧ (e' = e ∨ e'.IsRefusal)) ∧
    ∀ e, (format.read .lenient text).outcome = .error e → ¬ e.IsRefusal := by
  have hrefines := format.read_refines text
  refine ⟨?_, fun e he => hrefines.error he, ?_⟩
  · intro p hp
    have hfinite := (Format.read_yields (Reading.strict_reads.weaken (fun x hx => hx)
      fun e _ => trivial) (fun e _ => trivial) format text).ok hp
    exact ⟨hrefines.ok hp, hfinite.row, hfinite.rhs⟩
  · intro e he
    exact (Format.read_yields (Reading.lenient_reads.weaken (fun x hx => hx)
      fun e h => h.elim) (fun e h => h) format text).error he

end Tableaux
