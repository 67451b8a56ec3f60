import Tableaux.Proofs.Reading.Number

/-!
# Quoted lines

The line that a number is read from is only used to be quoted in errors. So if lines are changed
in any way, the outcome is the same but for the quoted lines, which are changed in the same way.
-/
namespace Tableaux.Reading

open Text (Line)

def ReadError.requote (f : Line → Line) : ReadError → ReadError
  | .malformedNumber token line => .malformedNumber token (f line)
  | .missingRelation line => .missingRelation (f line)
  | e => e

theorem readReal_requote (f : Line → Line) (leniency : Leniency) (line : Line) (text : List Char) :
    (readReal leniency (f line) text).outcome =
      (readReal leniency line text).outcome.mapError (.requote f) := by
  cases leniency with
  | lenient =>
    rw [readReal_lenient, readReal_lenient]
    rfl
  | strict =>
    cases hr : Decimal.read (Text.trim text) with
    | none =>
      simp only [readReal, hr]
      rfl
    | some x =>
      simp only [readReal, hr]
      by_cases hx : x.isFinite = true
      · rw [if_pos hx, if_pos hx]
        rfl
      · rw [if_neg hx, if_neg hx]
        rfl

end Tableaux.Reading
