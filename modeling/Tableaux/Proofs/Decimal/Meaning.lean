import Tableaux.Proofs.Decimal.Reader
import Tableaux.Proofs.Decimal.Scientific

/-!
# The number that a decimal text means

A text means at most one number, and it is read as the float that this number is rounded to. The
text of a finite float means the number that the shortest digits of the float stand for, so it is read
as the float.
-/
namespace Tableaux.Decimal

variable {text exponent mantissa : List Char} {p q : ℚ} {n k : ℤ} {negative : Bool} {d : Digits}
  {v : Binary} {x : Float}

/-- The exact number that a text is a decimal of. -/
inductive Means : List Char → ℚ → Prop where
  | decimal {sign mantissa whole fraction exponent : List Char} {negative : Bool} {n : ℤ}
      (hsign : Signed sign negative) (hmantissa : Mantissa mantissa whole fraction)
      (hexponent : Exponent exponent n) :
      Means (sign ++ (mantissa ++ exponent))
        (if negative then -((Nat.ofDigitChars 10 (whole ++ fraction) 0 : ℕ) * 10 ^ (n - fraction.length))
          else (Nat.ofDigitChars 10 (whole ++ fraction) 0 : ℕ) * 10 ^ (n - fraction.length))

theorem Mantissa.unsigned {whole fraction : List Char} (h : Mantissa mantissa whole fraction)
    (rest : List Char) :
    ∀ c ∈ (mantissa ++ rest).head?, c ≠ '+' ∧ c ≠ '-' := by
  obtain ⟨c, others, rfl, hc⟩ := h.head
  intro d hd
  obtain rfl : c = d := Option.some.inj hd
  rcases hc with hc | rfl
  · exact digit_not_sign hc
  · decide

theorem Exponent.unique (h : Exponent exponent n) (h' : Exponent exponent k) : n = k := by
  cases h with
  | missing => cases h'; rfl
  | @written mark sign digits negative hmark hsign hfilled hd =>
    have hread := readExponent_written hsign hfilled hd
    generalize htail : sign ++ digits = tail at hread h'
    cases h' with
    | @written _ sign' digits' negative' hmark' hsign' hfilled' hd' =>
      rw [readExponent_written hsign' hfilled' hd'] at hread
      exact (Option.some.inj hread).symm

theorem Means.unique (h : Means text p) (h' : Means text q) : p = q := by
  obtain ⟨hsign, hm, he⟩ := h
  rename_i sign mantissa whole fraction exponent negative n
  generalize htext : sign ++ (mantissa ++ exponent) = text at h'
  obtain ⟨hsign', hm', he'⟩ := h'
  rename_i sign' mantissa' whole' fraction' exponent' negative' n'
  have hsplit := splitSign_signed hsign (hm.unsigned exponent)
  rw [htext, splitSign_signed hsign' (hm'.unsigned _), Prod.mk.injEq] at hsplit
  obtain ⟨rfl, hrest⟩ := hsplit
  have hparts := splitMantissa_append hm he.head
  rw [← hrest, splitMantissa_append hm' he'.head, Prod.mk.injEq, Prod.mk.injEq] at hparts
  obtain ⟨rfl, rfl, rfl⟩ := hparts
  rw [he.unique he']

theorem isNaN_ofDigits (digits : List Char) (e : ℤ) : (ofDigits digits e).isNaN = false :=
  isNaN_ofScientific _ _ _

/-- A decimal is read as the float that the number is rounded to. -/
theorem read_of_means (h : Means text q) :
    ∃ x, read text = some x ∧ x.isNaN = false ∧ exact x = held q := by
  obtain ⟨hsign, hm, he⟩ := h
  obtain ⟨hread, hnumber⟩ := read_of_denotes (.decimal hsign hm he)
  refine ⟨_, hread, hnumber, ?_⟩
  rename_i whole fraction _ negative n
  cases negative with
  | true =>
    rw [if_pos rfl, if_pos rfl, held_neg, exact_neg (isNaN_ofDigits _ _), exact_ofDigits]
  | false => exact exact_ofDigits _ _

/-- The float that a numeric text stands for: infinity with its sign, or the float that the number
the text means is rounded to. -/
inductive StandsFor : List Char → Float → Prop where
  | infinite {sign : List Char} {negative : Bool} (hsign : Signed sign negative) :
      StandsFor (sign ++ "Infinity".toList) (if negative then -(1.0 / 0.0) else 1.0 / 0.0)
  | rounded {text : List Char} {q : ℚ} {x : Float} (hmeans : Means text q)
      (hnumber : x.isNaN = false) (hexact : exact x = held q) : StandsFor text x

theorem standsFor_of_denotes (h : Denotes text x) : StandsFor text x := by
  have hread := (read_of_denotes h).1
  cases h with
  | infinite hsign => exact .infinite hsign
  | decimal hsign hm he =>
    have hmeans := Means.decimal hsign hm he
    obtain ⟨y, hread', hnumber, hexact⟩ := read_of_means hmeans
    obtain rfl := Option.some.inj (hread'.symm.trans hread)
    exact .rounded hmeans hnumber hexact

theorem mantissa_text (h : Leading d.digits) : Mantissa d.text d.positional.1 d.positional.2 := by
  rw [Digits.text]
  split
  · rename_i hnone
    rw [List.append_nil, hnone]
    exact .integer (whole_ne_nil d) (digits_whole h)
  · exact .pointed (Or.inl (whole_ne_nil d)) (digits_whole h) (digits_fraction h)

theorem ofDigitChars_zeros (k : ℕ) (digits : List Char) :
    Nat.ofDigitChars 10 (List.replicate k '0' ++ digits) 0 = Nat.ofDigitChars 10 digits 0 := by
  rw [Nat.ofDigitChars_append, Nat.ofDigitChars_replicate_zero, Nat.mul_zero]

theorem positional_value (d : Digits) :
    ((Nat.ofDigitChars 10 (d.positional.1 ++ d.positional.2) 0 : ℕ) : ℚ) *
      10 ^ (0 - (d.positional.2.length : ℤ)) = d.value := by
  rw [Digits.value, Digits.positional]
  split
  · rename_i hnone
    rw [hnone]
    exact (zero_mul _).trans (zero_mul _).symm
  split
  · rename_i hpoint
    have hlead : ['0'] ++ (List.replicate (-d.point).toNat '0' ++ d.digits) =
        List.replicate ((-d.point).toNat + 1) '0' ++ d.digits := rfl
    dsimp only
    rw [hlead, ofDigitChars_zeros, List.length_append, List.length_replicate]
    congr 2
    omega
  · rename_i hpoint
    dsimp only
    rcases le_or_gt d.digits.length d.point.toNat with hwhole | hsplit
    · have hvalue : Nat.ofDigitChars 10 (d.digits ++ List.replicate (d.point.toNat - d.digits.length) '0') 0
          = 10 ^ (d.point.toNat - d.digits.length) * Nat.ofDigitChars 10 d.digits 0 := by
        rw [Nat.ofDigitChars_append, Nat.ofDigitChars_replicate_zero]
      have hexponent : d.point - d.digits.length = (d.point.toNat - d.digits.length : ℕ) := by omega
      rw [List.take_of_length_le hwhole, List.drop_eq_nil_of_le hwhole, List.append_nil, hvalue, hexponent,
        List.length_nil, zpow_natCast]
      push_cast
      ring
    · have hzeros : d.point.toNat - d.digits.length = 0 := by omega
      rw [hzeros, List.replicate_zero, List.append_nil, List.take_append_drop, List.length_drop]
      congr 2
      omega

theorem means_plain (h : Value.ofFloat x = .finite v) :
    Means (plain x).toList (if v.negative then -(v.shortest .up).value else (v.shortest .up).value) := by
  have hmeans : ∀ {sign : List Char} {negative : Bool}, Signed sign negative →
      Means (sign ++ (v.shortest .up).text)
        (if negative then -(v.shortest .up).value else (v.shortest .up).value) := by
    intro sign negative hsign
    have hdecimal := Means.decimal hsign (mantissa_text (leading_shortest v .up)) .missing
    rwa [List.append_nil, positional_value] at hdecimal
  rw [toList_plain h]
  cases v.negative with
  | true => exact hmeans .minus
  | false => exact hmeans .unsigned

/-- The text of a finite float means a number that is rounded to the float. -/
theorem plain_means (h : x.isFinite = true) : ∃ q, Means (plain x).toList q ∧ held q = exact x := by
  obtain ⟨v, hv, hexact, hcases⟩ := Value.ofFloat_finite h
  refine ⟨_, means_plain hv, ?_⟩
  have hheld : held (v.shortest .up).value = scaled v.mantissa v.exponent := by
    rcases hcases with ⟨hm, -⟩ | ⟨hpos, hr, he⟩
    · have hnone : v.shortest .up = ⟨[], 0⟩ := by rw [Binary.shortest, if_pos hm]
      have hvalue : (v.shortest .up).value = 0 := by
        rw [hnone]
        exact zero_mul _
      rw [hvalue, held_zero, hm, scaled, Nat.cast_zero, zero_mul]
    · have hrounded := rounded_shortest hr hpos .up
      rw [held_of_lt (hrounded ▸ scaled_lt_limit hr he) (hrounded ▸ (scaled_pos _ hpos).le), hrounded]
  rw [hexact, Binary.worth]
  split
  · rw [held_neg, hheld]
  · exact hheld

theorem eq_zero_of_exact (h : x.isFinite = true) (hzero : exact x = 0) : x = 0 ∨ x = -0 := by
  have hpack := pack_unpack_model x.toModel
  have hu := unpacks_finite h
  rw [exact] at hzero
  generalize x.toModel.unpack = u at hpack hu hzero
  cases hu with
  | zero s =>
    cases s with
    | positive => exact Or.inl (congrArg Float.ofModel hpack.symm)
    | negative => exact Or.inr (congrArg Float.ofModel hpack.symm)
  | @finite s m e hm hr he =>
    have hpos := scaled_pos e hm
    rw [worth_finite] at hzero
    cases s <;> dsimp only at hzero <;> linarith

theorem read_plain (h : x.isFinite = true) : read (plain x).toList = some x := by
  by_cases hzero : exact x = 0
  · rcases eq_zero_of_exact h hzero with rfl | rfl <;> decide +kernel
  · obtain ⟨q, hq, hheld⟩ := plain_means h
    obtain ⟨y, hread, hnumber, hexact⟩ := read_of_means hq
    rw [hheld] at hexact
    have hfinite : y.isFinite = true := by
      rw [isFinite_iff hnumber, hexact]
      exact (isFinite_iff (isNaN_of_finite h)).mp h
    rw [hread, exact_inj hfinite h hexact (hexact ▸ hzero)]

end Tableaux.Decimal
