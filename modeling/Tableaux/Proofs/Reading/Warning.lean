import Tableaux.Proofs.Reading.Outcome

/-!
# Warnings made while reading

The warnings of a sequence are those of its first step, and behind them those of the
second one unless the first one failed. Reading a number never warns.
-/
namespace Tableaux.Reading

variable {ε α β : Type}

def warnings (notes : List Note) : List Note := notes.filter fun note => note.level = .warning

namespace Recorded

theorem warnings_bind {first : Recorded ε α} {a : α} (h : first.outcome = .ok a)
    (second : α → Recorded ε β) :
    warnings (first >>= second).notes = warnings first.notes ++ warnings (second a).notes := by
  rw [notes_bind, h, warnings, List.filter_append, warnings, warnings]

theorem warnings_mapM {f : α → Recorded ε β} {g : α → β} {xs : List α}
    (h : ∀ x ∈ xs, (f x).outcome = .ok (g x)) :
    warnings (xs.mapM f).notes = xs.flatMap fun x => warnings (f x).notes := by
  induction xs with
  | nil => rfl
  | cons x xs ih =>
    have hrest : ∀ y ∈ xs, (f y).outcome = .ok (g y) := fun y hy => h y (List.mem_cons_of_mem _ hy)
    have hall : (xs.mapM f).outcome = .ok (xs.map g) := by
      rw [outcome_mapM]
      exact mapM_ok hrest
    rw [List.mapM_cons, warnings_bind (h x List.mem_cons_self), warnings_bind hall, ih hrest,
      notes_pure, List.flatMap_cons]
    simp [warnings]

end Recorded

theorem warnings_readReal (leniency : Leniency) (line : Text.Line) (text : List Char) :
    warnings (readReal leniency line text).notes = [] := by
  dsimp only [readReal]
  cases Decimal.read (Text.trim text) with
  | none => cases leniency <;> rfl
  | some x =>
    cases leniency with
    | lenient => rfl
    | strict =>
      dsimp only
      by_cases hx : x.isFinite = true
      · rw [if_pos hx]
        rfl
      · rw [if_neg hx]
        rfl

end Tableaux.Reading
