import Tableaux.Proofs.Copt.Width

/-!
# The limit on variables in COPT notation

A text is refused for a variable beyond the limit exactly if the number of such a
variable can be represented. A variable with a still larger number is passed over:
the text is then read as if this variable had no number at all.
-/
namespace Tableaux.Copt

open Expression (Mentions largestVariable? numberLimit)

theorem read_tooManyVariables (leniency : Leniency) (text : List Char) (width limit : Nat) :
    (read leniency text).outcome = .error (.tooManyVariables width limit) ↔
      largestVariable? text = some width ∧ maxVariables < width ∧ limit = maxVariables := by
  rcases read_cases leniency text with ⟨w, hw, -, hle, hr⟩ | ⟨w, hw, hlt, hr⟩ | ⟨hzero, hr⟩
  · constructor
    · intro h
      rw [hr] at h
      exact ((readBody_yields (Reading.refusing_reads leniency) w (outline text)).error h).elim
    · rintro ⟨hw', hlt, -⟩
      rw [hw] at hw'
      cases hw'
      exact absurd hlt (Nat.not_lt.mpr hle)
  · rw [hr]
    constructor
    · intro h
      cases h
      exact ⟨hw, hlt, rfl⟩
    · rintro ⟨hw', -, rfl⟩
      rw [hw] at hw'
      cases hw'
      rfl
  · rw [hr]
    constructor
    · intro h
      cases h
    · rintro ⟨hw', hlt, -⟩
      rw [hzero width hw'] at hlt
      cases hlt

theorem exists_larger_iff (text : List Char) :
    (∃ width, largestVariable? text = some width ∧ maxVariables < width) ↔
      ∃ n, Mentions text n ∧ maxVariables < n ∧ n < numberLimit := by
  constructor
  · rintro ⟨width, hw, hlt⟩
    obtain ⟨hm, hn⟩ := Expression.largestVariable_mentioned hw
    exact ⟨width, hm, hlt, hn⟩
  · rintro ⟨n, hm, hlt, hn⟩
    obtain ⟨width, hw, hle⟩ :=
      Expression.le_largestVariable (Expression.mem_variableNumbers.mpr ⟨hm, hn⟩)
    exact ⟨width, hw, Nat.lt_of_lt_of_le hlt hle⟩

theorem exists_dense_iff (text : List Char) :
    (∃ width, largestVariable? text = some width ∧ 1 ≤ width ∧ width ≤ maxVariables) ↔
      (∃ n, Mentions text n ∧ 1 ≤ n ∧ n ≤ maxVariables) ∧
        ∀ n, Mentions text n → maxVariables < n → numberLimit ≤ n := by
  constructor
  · rintro ⟨width, hw, h1, h2⟩
    refine ⟨⟨width, (Expression.largestVariable_mentioned hw).1, h1, h2⟩, ?_⟩
    intro n hm hlt
    by_contra hn
    have hle := Expression.mentioned_le_largestVariable hw hm (Nat.lt_of_not_le hn)
    omega
  · rintro ⟨⟨n, hm, h1, h2⟩, hsmall⟩
    have hn : n < numberLimit := Nat.lt_of_le_of_lt h2 (by decide)
    obtain ⟨width, hw, hle⟩ :=
      Expression.le_largestVariable (Expression.mem_variableNumbers.mpr ⟨hm, hn⟩)
    refine ⟨width, hw, Nat.le_trans h1 hle, ?_⟩
    by_contra hlt
    obtain ⟨hw', hlimit⟩ := Expression.largestVariable_mentioned hw
    exact absurd (hsmall width hw' (Nat.lt_of_not_le hlt)) (Nat.not_le.mpr hlimit)

/-- A text with a variable beyond the limit is refused for it, strictly and leniently,
exactly if such a number can be represented. If none can, these variables are passed over:
the text is then read leniently as soon as it has a variable within the limit. -/
theorem refused_iff_representable (text : List Char) :
    (∀ leniency, (∃ width limit,
        (read leniency text).outcome = .error (.tooManyVariables width limit)) ↔
      ∃ n, Mentions text n ∧ maxVariables < n ∧ n < numberLimit) ∧
    ((∃ p, (read .lenient text).outcome = .ok p) ↔
      (∃ n, Mentions text n ∧ 1 ≤ n ∧ n ≤ maxVariables) ∧
        ∀ n, Mentions text n → maxVariables < n → numberLimit ≤ n) := by
  constructor
  · intro leniency
    rw [← exists_larger_iff]
    constructor
    · rintro ⟨width, limit, h⟩
      obtain ⟨hw, hlt, -⟩ := (read_tooManyVariables leniency text width limit).mp h
      exact ⟨width, hw, hlt⟩
    · rintro ⟨width, hw, hlt⟩
      exact ⟨width, maxVariables, (read_tooManyVariables _ _ _ _).mpr ⟨hw, hlt, rfl⟩⟩
  · rw [read_lenient_ok_iff]
    exact exists_dense_iff text

def oversizedText : List Char := "min: x1 + x18446744073709551616\nend".toList

theorem largestVariable_oversized : largestVariable? oversizedText = some 1 := by
  decide +kernel

/-- The number `2 ^ 64` is beyond the limit, and yet its variable is dropped. -/
theorem oversized_variable_dropped :
    Mentions oversizedText 18446744073709551616 ∧ maxVariables < 18446744073709551616 ∧
      (∃ p, (read .lenient oversizedText).outcome = .ok p) ∧
      ∀ leniency width limit,
        (read leniency oversizedText).outcome ≠ .error (.tooManyVariables width limit) := by
  refine ⟨?_, by decide, ?_, ?_⟩
  · exact ⟨"min: x1 + ".toList, "18446744073709551616".toList, '\n' :: "end".toList,
      by decide +kernel, by decide, List.all_eq_true.mp (by decide),
      Expression.head_not_digit (by decide) _, by decide +kernel⟩
  · exact (read_lenient_ok_iff _).mpr ⟨1, largestVariable_oversized, by decide, by decide⟩
  · intro leniency width limit h
    obtain ⟨hw, hlt, -⟩ := (read_tooManyVariables leniency _ width limit).mp h
    rw [largestVariable_oversized] at hw
    cases hw
    exact absurd hlt (by decide)

end Tableaux.Copt
