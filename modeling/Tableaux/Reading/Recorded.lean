import Tableaux.Reading.Note

/-! # Recorded results

A result of reading, or the error that ended it, together with the notes made on the way. Notes
are kept also if reading fails.
-/
namespace Tableaux.Reading

/-- The outcome of reading and the notes made before it was reached. -/
structure Recorded (ε α : Type) where
  notes : List Note
  outcome : Except ε α

namespace Recorded

variable {ε α β : Type}

def andThen (first : Recorded ε α) (second : α → Recorded ε β) : Recorded ε β :=
  match first.outcome with
  | .error e => ⟨first.notes, .error e⟩
  | .ok a => ⟨first.notes ++ (second a).notes, (second a).outcome⟩

instance : Monad (Recorded ε) where
  pure a := ⟨[], .ok a⟩
  bind := andThen

def ofExcept (outcome : Except ε α) : Recorded ε α := ⟨[], outcome⟩

def fail (e : ε) : Recorded ε α := ⟨[], .error e⟩

def record (notes : List Note) : Recorded ε Unit := ⟨notes, .ok ()⟩

def mapError {δ : Type} (f : ε → δ) (r : Recorded ε α) : Recorded δ α :=
  ⟨r.notes, r.outcome.mapError f⟩

theorem outcome_pure (a : α) : (pure a : Recorded ε α).outcome = .ok a := rfl

theorem notes_pure (a : α) : (pure a : Recorded ε α).notes = [] := rfl

theorem outcome_bind (first : Recorded ε α) (second : α → Recorded ε β) :
    (first >>= second).outcome = first.outcome >>= fun a => (second a).outcome := by
  change (andThen first second).outcome = _
  unfold andThen
  cases h : first.outcome <;> rfl

theorem notes_bind (first : Recorded ε α) (second : α → Recorded ε β) :
    (first >>= second).notes =
      first.notes ++ (match first.outcome with | .ok a => (second a).notes | .error _ => []) := by
  change (andThen first second).notes = _
  unfold andThen
  cases h : first.outcome <;> simp

theorem ext {r s : Recorded ε α} (hn : r.notes = s.notes) (ho : r.outcome = s.outcome) : r = s := by
  cases r; cases s; simp_all

instance : LawfulMonad (Recorded ε) := LawfulMonad.mk' _
  (fun r => by
    refine ext ?_ ?_
    · change (andThen r _).notes = _
      unfold andThen
      cases h : r.outcome <;> simp
    · change (andThen r _).outcome = _
      unfold andThen
      cases h : r.outcome <;> rfl)
  (fun _ _ => rfl)
  (fun r f g => by
    change andThen (andThen r f) g = andThen r fun a => andThen (f a) g
    unfold andThen
    cases hr : r.outcome with
    | error e => rfl
    | ok a => cases hf : (f a).outcome <;> simp [hf])

end Recorded
end Tableaux.Reading
