import Tableaux.Proofs.Decimal.Binary64
import Tableaux.Proofs.Reading.Outcome
import Tableaux.Proofs.Text.Line

/-!
# Numbers read strictly and leniently

Lenient reading always gives a number, if only NaN. Strict reading gives the same
number if it is finite, and refuses the token otherwise.
-/
namespace Tableaux.Reading

open Text (Line trim)

theorem readReal_trim (leniency : Leniency) (line : Line) (text : List Char) :
    readReal leniency line (trim text) = readReal leniency line text := by
  dsimp only [readReal]
  rw [Text.trim_trim]

theorem readReal_lenient (line : Line) (text : List Char) :
    (readReal .lenient line text).outcome = .ok ((Decimal.read (trim text)).getD (0.0 / 0.0)) := by
  dsimp only [readReal]
  cases Decimal.read (trim text) <;> rfl

theorem readReal_strict_some {text : List Char} {x : Float} (line : Line)
    (h : Decimal.read (trim text) = some x) (hx : x.isFinite = true) :
    (readReal .strict line text).outcome = .ok x := by
  dsimp only [readReal]
  rw [h]
  dsimp only
  rw [if_pos hx]
  rfl

theorem readReal_finite {text : List Char} {x : Float} (leniency : Leniency) (line : Line)
    (h : Decimal.read (trim text) = some x) (hx : x.isFinite = true) :
    (readReal leniency line text).outcome = .ok x := by
  cases leniency with
  | lenient => rw [readReal_lenient, h, Option.getD_some]
  | strict => exact readReal_strict_some line h hx

theorem readReal_strict_cases (line : Line) (text : List Char) :
    (∃ x, Decimal.read (trim text) = some x ∧ x.isFinite = true ∧
      (readReal .strict line text).outcome = .ok x) ∨
    (readReal .strict line text).outcome = .error (.malformedNumber (trim text) line) := by
  cases h : Decimal.read (trim text) with
  | none =>
    refine Or.inr ?_
    dsimp only [readReal]
    rw [h]
    rfl
  | some x =>
    by_cases hx : x.isFinite = true
    · exact Or.inl ⟨x, rfl, hx, readReal_strict_some line h hx⟩
    · refine Or.inr ?_
      dsimp only [readReal]
      rw [h]
      dsimp only
      rw [if_neg hx]
      rfl

/-- A text stands for a number. Leniently, one that cannot be read stands for NaN. -/
inductive ReadAs (leniency : Leniency) (text : List Char) (x : Float) : Prop where
  | number (h : Decimal.read (trim text) = some x)
  | malformed (hl : leniency = .lenient) (h : Decimal.read (trim text) = none)
      (hx : x.isNaN = true)

theorem readAs_of_readReal {leniency : Leniency} {line : Line} {text : List Char} {x : Float}
    (h : (readReal leniency line text).outcome = .ok x) : ReadAs leniency text x := by
  cases leniency with
  | lenient =>
    rw [readReal_lenient] at h
    cases hr : Decimal.read (trim text) with
    | none =>
      rw [hr] at h
      cases h
      exact .malformed rfl hr (by decide)
    | some y =>
      rw [hr] at h
      cases h
      exact .number hr
  | strict =>
    rcases readReal_strict_cases line text with ⟨y, hr, -, ho⟩ | ho
    · rw [ho] at h
      cases h
      exact .number hr
    · rw [ho] at h
      cases h

def Legible (leniency : Leniency) (text : List Char) : Prop :=
  leniency = .strict → ∃ x, Decimal.read (trim text) = some x ∧ x.isFinite = true

theorem readReal_of_legible {leniency : Leniency} {text : List Char} (h : Legible leniency text)
    (line : Line) :
    (readReal leniency line text).outcome = .ok ((Decimal.read (trim text)).getD (0.0 / 0.0)) := by
  cases leniency with
  | lenient => exact readReal_lenient line text
  | strict =>
    obtain ⟨x, hr, hx⟩ := h rfl
    rw [readReal_strict_some line hr hx, hr, Option.getD_some]

theorem legible_of_readReal {leniency : Leniency} {line : Line} {text : List Char} {x : Float}
    (h : (readReal leniency line text).outcome = .ok x) : Legible leniency text := by
  rintro rfl
  rcases readReal_strict_cases line text with ⟨y, hr, hy, -⟩ | ho
  · exact ⟨y, hr, hy⟩
  · rw [ho] at h
    cases h

theorem readReal_strict_error {line : Line} {text : List Char} {e : ReadError}
    (h : (readReal .strict line text).outcome = .error e) :
    ¬ Legible .strict text ∧ e = .malformedNumber (trim text) line := by
  constructor
  · intro hlegible
    rw [readReal_of_legible hlegible line] at h
    cases h
  · rcases readReal_strict_cases line text with ⟨x, -, -, ho⟩ | ho
    · rw [ho] at h
      cases h
    · rw [ho] at h
      exact (Except.error.inj h).symm

/-- What holds of the numbers that are read with a leniency, of zero, and of the errors
that malformed lines cause. -/
structure Reads (leniency : Leniency) (P : Float → Prop) (E : ReadError → Prop) : Prop where
  zero : P 0
  real : ∀ line text, Yields P E (readReal leniency line text).outcome
  relation : leniency = .strict → ∀ line, E (.missingRelation line)

theorem Reads.weaken {leniency : Leniency} {P Q : Float → Prop} {E F : ReadError → Prop}
    (h : Reads leniency P E) (hp : ∀ x, P x → Q x) (he : ∀ e, E e → F e) :
    Reads leniency Q F where
  zero := hp 0 h.zero
  real line text := (h.real line text).weaken hp he
  relation hl line := he _ (h.relation hl line)

theorem strict_reads : Reads .strict (fun x => x.isFinite = true) ReadError.IsRefusal where
  zero := Decimal.zero_finite
  real line text := by
    rcases readReal_strict_cases line text with ⟨x, -, hx, ho⟩ | ho
    · rw [ho]; exact hx
    · rw [ho]; exact trivial
  relation _ line := trivial

theorem lenient_reads : Reads .lenient (fun _ => True) (fun _ => False) where
  zero := trivial
  real line text := by
    rw [readReal_lenient]
    exact trivial
  relation h := by cases h

theorem refusing_reads (leniency : Leniency) :
    Reads leniency (fun _ => True) ReadError.IsRefusal := by
  cases leniency with
  | lenient => exact lenient_reads.weaken (fun _ h => h) fun _ h => h.elim
  | strict => exact strict_reads.weaken (fun _ _ => trivial) fun _ h => h

theorem readReal_refines (line : Line) (text : List Char) :
    Refines (readReal .strict line text).outcome (readReal .lenient line text).outcome := by
  rcases readReal_strict_cases line text with ⟨x, hr, -, ho⟩ | ho
  · rw [ho, readReal_lenient, hr]
    exact .refl _
  · exact Or.inr ⟨_, ho, trivial⟩

end Tableaux.Reading
