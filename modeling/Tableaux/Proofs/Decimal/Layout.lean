import Tableaux.Decimal.Brief
import Tableaux.Proofs.Decimal.Digits

/-!
# Characters of a written number

A positional number is written with digits, a sign and a point, and what is no finite number is
written by name. Nothing else stands in the value of a tableau.
-/
namespace Tableaux.Decimal

theorem replicate_zero_digits (k : Nat) : ∀ c ∈ List.replicate k '0', isDigit c = true := by
  intro c hc
  rw [List.eq_of_mem_replicate hc]
  decide

theorem digits_whole {d : Digits} (h : Leading d.digits) :
    ∀ c ∈ d.positional.1, isDigit c = true := by
  intro c hc
  unfold Digits.positional at hc
  split at hc
  · exact replicate_zero_digits 1 c hc
  · split at hc
    · exact replicate_zero_digits 1 c hc
    · rcases List.mem_append.mp hc with hc | hc
      · exact h.digit c (List.mem_of_mem_take hc)
      · exact replicate_zero_digits _ c hc

theorem digits_fraction {d : Digits} (h : Leading d.digits) :
    ∀ c ∈ d.positional.2, isDigit c = true := by
  intro c hc
  unfold Digits.positional at hc
  split at hc
  · exact absurd hc List.not_mem_nil
  · split at hc
    · rcases List.mem_append.mp hc with hc | hc
      · exact replicate_zero_digits _ c hc
      · exact h.digit c hc
    · exact h.digit c (List.mem_of_mem_drop hc)

/-- A character that the values of a tableau are written with. -/
def IsFigure (c : Char) : Prop :=
  isDigit c = true ∨ c ∈ ['-', '.', 'N', 'a', 'i', 'n', 'f']

instance (c : Char) : Decidable (IsFigure c) := inferInstanceAs (Decidable (_ ∨ _))

theorem numeral_plain (v : Binary) : Layout.plain.numeral v =
    ⟨v.negative, (v.shortest .up).positional.1, (v.shortest .up).positional.2, none⟩ := by
  simp [Layout.numeral, Layout.plain, Layout.isPositional]

theorem figures_spell (l : Layout) {n : Numeral} (hexponent : n.exponent = none)
    (hwhole : ∀ c ∈ n.whole, isDigit c = true) (hfraction : ∀ c ∈ n.fraction, isDigit c = true) :
    ∀ c ∈ l.spell n, IsFigure c := by
  intro c hc
  rw [Layout.spell, hexponent] at hc
  simp only [List.append_nil, List.mem_append] at hc
  rcases hc with (hc | hc) | hc
  · split at hc
    · rw [List.mem_singleton.mp hc]
      decide
    · cases hc
  · exact Or.inl (hwhole c hc)
  · split at hc
    · cases hc
    · rcases List.mem_cons.mp hc with rfl | hc
      · decide
      · exact Or.inl (hfraction c hc)

theorem figures_plain (x : Float) : ∀ c ∈ (plain x).toList, IsFigure c := by
  rw [plain, String.toList_ofList]
  unfold Layout.write
  cases Value.ofFloat x with
  | notANumber => simp [IsFigure]
  | infinite negative => cases negative <;> simp [IsFigure]
  | finite v =>
    have hlead := leading_shortest v .up
    dsimp only
    rw [numeral_plain]
    exact figures_spell .plain rfl (digits_whole hlead) (digits_fraction hlead)

theorem figures_brief (x : Float) : ∀ c ∈ (brief x).toList, IsFigure c := figures_plain _

end Tableaux.Decimal
