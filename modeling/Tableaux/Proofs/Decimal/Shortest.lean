import Tableaux.Proofs.Decimal.Brief
import Tableaux.Proofs.Decimal.Interval
import Tableaux.Proofs.Decimal.Layout

/-!
# The shortest decimal of a float

For every float but zero a decimal with at most seventeen digits is found in the interval that rounds
to the float. So the decimal is rounded to the float, and it is never another float.
-/
namespace Tableaux.Decimal

variable {v : Binary} {n multiple : ℕ} {f p : ℤ} {i : Interval} {tie : Tie} {d : Digits}

theorem width_le_iff (hn : 0 < n) {k : ℕ} : width n ≤ k ↔ n < 10 ^ k := by
  rcases Nat.eq_zero_or_pos k with rfl | hk
  · have hne : width n ≠ 0 := by
      rw [width, ne_eq, List.length_eq_zero_iff]
      exact Nat.toDigits_ne_nil
    omega
  · exact Nat.length_toDigits_le_iff (by decide) hk

theorem lt_width (hn : 0 < n) : n < 10 ^ width n := (width_le_iff hn).mp le_rfl

theorem width_pos (hn : 0 < n) : 0 < width n := by
  by_contra hzero
  have hlt := lt_width hn
  rw [Nat.eq_zero_of_not_pos hzero] at hlt
  omega

theorem width_le (hn : 0 < n) : 10 ^ (width n - 1) ≤ n := by
  by_contra hlt
  have hle := (width_le_iff hn).mpr (not_le.mp hlt)
  have hpos := width_pos hn
  omega

theorem ten_zpow_mul_le_iff (numerator denominator : ℕ) (k : ℤ) :
    denominator * Nat.pow 10 k.toNat ≤ numerator * Nat.pow 10 (-k).toNat ↔
      (10 : ℚ) ^ k * denominator ≤ numerator := by
  have hpos : (0 : ℚ) < (Nat.pow 10 (-k).toNat : ℕ) := by
    exact_mod_cast Nat.pow_pos (by decide)
  rw [← @Nat.cast_le ℚ, Nat.cast_mul, Nat.cast_mul, natPow_toNat 10 (by decide), ← mul_assoc,
    Nat.cast_ofNat, mul_le_mul_iff_left₀ hpos, mul_comm]

/-- The widths alone determine the magnitude of a quotient up to one. -/
theorem ten_zpow_width {numerator denominator : ℕ} (hn : 0 < numerator) (hd : 0 < denominator) :
    (10 : ℚ) ^ ((width numerator : ℤ) - width denominator - 1) * denominator ≤ numerator := by
  have hlow : (10 : ℚ) ^ (width numerator - 1) ≤ numerator := by exact_mod_cast width_le hn
  have hhigh : (denominator : ℚ) ≤ 10 ^ width denominator := by exact_mod_cast (lt_width hd).le
  have hwidth := width_pos hn
  calc (10 : ℚ) ^ ((width numerator : ℤ) - width denominator - 1) * denominator
      ≤ 10 ^ ((width numerator : ℤ) - width denominator - 1) * 10 ^ width denominator :=
        mul_le_mul_of_nonneg_left hhigh (ten_zpow_pos _).le
    _ = 10 ^ (width numerator - 1) := by
        rw [← zpow_natCast, ← zpow_natCast, ← zpow_add₀ (by norm_num)]
        congr 1
        omega
    _ ≤ numerator := hlow

theorem lt_ten_zpow_width {numerator denominator : ℕ} (hn : 0 < numerator) (hd : 0 < denominator) :
    (numerator : ℚ) < 10 ^ ((width numerator : ℤ) - width denominator + 1) * denominator := by
  have hhigh : (numerator : ℚ) < 10 ^ width numerator := by exact_mod_cast lt_width hn
  have hlow : (10 : ℚ) ^ (width denominator - 1) ≤ denominator := by exact_mod_cast width_le hd
  have hwidth := width_pos hd
  calc (numerator : ℚ) < 10 ^ width numerator := hhigh
    _ = 10 ^ ((width numerator : ℤ) - width denominator + 1) * 10 ^ (width denominator - 1) := by
        rw [← zpow_natCast, ← zpow_natCast, ← zpow_add₀ (by norm_num)]
        congr 1
        omega
    _ ≤ _ := mul_le_mul_of_nonneg_left hlow (ten_zpow_pos _).le

/-- The magnitude is the exponent of the power of ten just below a number. -/
theorem magnitude_bounds (h : 0 < v.mantissa) :
    (10 : ℚ) ^ v.magnitude ≤ scaled v.mantissa v.exponent ∧
      scaled v.mantissa v.exponent < 10 ^ (v.magnitude + 1) := by
  have hdenominator := v.denominator_pos
  have hnumerator : 0 < v.numerator := Nat.mul_pos h (Nat.two_pow_pos _)
  have hden : (0 : ℚ) < v.denominator := by exact_mod_cast hdenominator
  rw [← quotient_eq, le_div_iff₀ hden, div_lt_iff₀ hden]
  unfold Binary.magnitude
  dsimp only
  split
  · rename_i hle
    exact ⟨(ten_zpow_mul_le_iff _ _ _).mp hle, lt_ten_zpow_width hnumerator hdenominator⟩
  · rename_i hlt
    rw [ten_zpow_mul_le_iff, not_le] at hlt
    refine ⟨ten_zpow_width hnumerator hdenominator, ?_⟩
    rwa [sub_add_cancel]

theorem holds_of_lt (hlow : i.low * (i.scale p).binary < multiple * (i.scale p).decimal)
    (hhigh : multiple * (i.scale p).decimal < i.high * (i.scale p).binary) :
    i.holds p multiple = true := by
  unfold Interval.holds
  dsimp only
  split
  · rw [Bool.and_eq_true, decide_eq_true_iff, decide_eq_true_iff]
    exact ⟨hlow.le, hhigh.le⟩
  · rw [Bool.and_eq_true, decide_eq_true_iff, decide_eq_true_iff]
    exact ⟨hlow, hhigh⟩

theorem multiple?_holds (h : i.multiple? tie p = some multiple) :
    i.holds p multiple = true := by
  unfold Interval.multiple? at h
  dsimp only at h
  split at h
  · cases h
  · rename_i hbelow _
    cases h
    exact hbelow
  · rename_i habove
    cases h
    exact habove
  · rename_i hbelow habove
    split at h
    · cases h
      exact hbelow
    · split at h
      · cases h
        exact habove
      · cases tie with
        | up =>
          cases h
          exact habove
        | even =>
          cases h
          rcases Nat.mod_two_eq_zero_or_one (i.middle * (i.scale p).binary / (i.scale p).decimal)
            with heven | hodd
          · rwa [heven, add_zero]
          · rwa [hodd]

theorem multiple?_isSome
    (h : i.holds p (i.middle * (i.scale p).binary / (i.scale p).decimal) = true ∨
      i.holds p (i.middle * (i.scale p).binary / (i.scale p).decimal + 1) = true) :
    (i.multiple? tie p).isSome = true := by
  unfold Interval.multiple?
  dsimp only
  split
  · rename_i hbelow habove
    rcases h with h | h
    · rw [hbelow] at h
      cases h
    · rw [habove] at h
      cases h
  · rfl
  · rfl
  · split
    · rfl
    · split
      · rfl
      · cases tie <;> rfl

theorem multiple?_of_holds (hv : Regular v.mantissa v.exponent) (hpos : 0 < v.mantissa)
    (h : (Interval.around v).holds p multiple = true) :
    ((Interval.around v).multiple? tie p).isSome = true := by
  have hself := contains_self hv hpos
  rw [holds_iff] at h
  apply multiple?_isSome
  rw [holds_iff, holds_iff]
  have hmiddle : (Interval.around v).middle = 4 * v.mantissa := rfl
  have hquarter : ((4 * v.mantissa : ℕ) : ℚ) * 2 ^ (Interval.around v).exponent =
      scaled v.mantissa v.exponent := (scaled_quarter _ _).symm
  obtain ⟨below, hbelow⟩ : ∃ below, below = (Interval.around v).middle *
      ((Interval.around v).scale p).binary / ((Interval.around v).scale p).decimal := ⟨_, rfl⟩
  have hten := (ten_zpow_pos p).le
  rw [← hbelow]
  rw [hmiddle] at hbelow
  rcases Nat.lt_or_ge below multiple with hafter | hbefore
  · have hcast : ((below + 1 : ℕ) : ℚ) ≤ multiple := by exact_mod_cast hafter
    refine Or.inr (hself.between h ?_ (mul_le_mul_of_nonneg_right hcast hten))
    rw [← hquarter]
    refine (scale_le_iff _ p _ _).1.mp ?_
    exact ((Nat.div_lt_iff_lt_mul (scale_pos _ p).2).mp (by omega)).le
  · have hcast : (multiple : ℚ) ≤ below := by exact_mod_cast hbefore
    refine Or.inl (h.between hself (mul_le_mul_of_nonneg_right hcast hten) ?_)
    rw [← hquarter]
    refine (scale_le_iff _ p _ _).2.mp ?_
    rw [hbelow]
    exact Nat.div_mul_le_self _ _

/-- If a step of the multiples is less than twice the distance to both bounds, the nearer of the two
multiples around the middle is between the bounds. -/
theorem multiple?_of_dense
    (hlow : (i.scale p).decimal + 2 * (i.low * (i.scale p).binary) <
      2 * (i.middle * (i.scale p).binary))
    (hhigh : (i.scale p).decimal + 2 * (i.middle * (i.scale p).binary) <
      2 * (i.high * (i.scale p).binary)) :
    (i.multiple? tie p).isSome = true := by
  apply multiple?_isSome
  have hdivision := Nat.div_add_mod (i.middle * (i.scale p).binary) (i.scale p).decimal
  have hmod := Nat.mod_lt (i.middle * (i.scale p).binary) (scale_pos i p).2
  rw [mul_comm] at hdivision
  rcases le_or_gt (2 * (i.middle * (i.scale p).binary % (i.scale p).decimal))
    (i.scale p).decimal with hnear | hfar
  · exact Or.inl (holds_of_lt (by omega) (by omega))
  · refine Or.inr (holds_of_lt ?_ ?_) <;> rw [Nat.add_one_mul] <;> omega

theorem seventeen_suffice (hv : Regular v.mantissa v.exponent) (hpos : 0 < v.mantissa) (tie : Tie) :
    ((Interval.around v).multiple? tie (v.magnitude - 16)).isSome = true := by
  have hdense : 10 ^ 16 * ((Interval.around v).scale (v.magnitude - 16)).decimal ≤
      4 * v.mantissa * ((Interval.around v).scale (v.magnitude - 16)).binary := by
    refine (scale_le_iff (Interval.around v) (v.magnitude - 16) (4 * v.mantissa) (10 ^ 16)).2.mpr ?_
    calc ((10 ^ 16 : ℕ) : ℚ) * 10 ^ (v.magnitude - 16) = 10 ^ v.magnitude := by
          rw [Nat.cast_pow, Nat.cast_ofNat, ← zpow_natCast, ← zpow_add₀ (by norm_num)]
          congr 1
          omega
      _ ≤ scaled v.mantissa v.exponent := (magnitude_bounds hpos).1
      _ = _ := scaled_quarter v.mantissa v.exponent
  obtain ⟨hbinary, -⟩ := scale_pos (Interval.around v) (v.magnitude - 16)
  have hmiddle : (Interval.around v).middle = 4 * v.mantissa := rfl
  have hhigh : (Interval.around v).high = 4 * v.mantissa + 2 := rfl
  have hmantissa : v.mantissa * ((Interval.around v).scale (v.magnitude - 16)).binary ≤
      2 ^ 53 * ((Interval.around v).scale (v.magnitude - 16)).binary :=
    Nat.mul_le_mul_right _ hv.bounded.le
  apply multiple?_of_dense
  · rw [hmiddle]
    have hlow : (Interval.around v).low = 4 * v.mantissa - 1 ∧ v.mantissa = 2 ^ 52 ∨
        (Interval.around v).low = 4 * v.mantissa - 2 := by
      unfold Interval.around
      dsimp only
      split
      · rename_i hpower
        exact Or.inl ⟨rfl, hpower.1⟩
      · exact Or.inr rfl
    -- Below a power of two there is only a quarter of a place, but the number has fewer digits.
    rcases hlow with ⟨hlow, hpower⟩ | hlow
    · rw [hlow, Nat.sub_mul, Nat.one_mul, Nat.mul_assoc]
      rw [Nat.mul_assoc] at hdense
      have hone : v.mantissa * ((Interval.around v).scale (v.magnitude - 16)).binary =
          2 ^ 52 * ((Interval.around v).scale (v.magnitude - 16)).binary := by rw [hpower]
      omega
    · rw [hlow, Nat.sub_mul, Nat.mul_assoc]
      rw [Nat.mul_assoc] at hdense
      have hfew : ((Interval.around v).scale (v.magnitude - 16)).binary ≤
          v.mantissa * ((Interval.around v).scale (v.magnitude - 16)).binary :=
        Nat.le_mul_of_pos_left _ hpos
      omega
  · rw [hmiddle, hhigh, Nat.add_mul, Nat.mul_assoc]
    rw [Nat.mul_assoc] at hdense
    omega

def Digits.value (d : Digits) : ℚ :=
  (Nat.ofDigitChars 10 d.digits 0 : ℕ) * 10 ^ (d.point - d.digits.length)

theorem toDigits_split (multiple : ℕ) (place : ℤ) :
    ∃ k, Nat.toDigits 10 multiple = (Digits.ofMultiple multiple place).digits ++ List.replicate k '0' := by
  have hsplit := (Nat.toDigits 10 multiple).reverse.takeWhile_append_dropWhile (p := (· == '0'))
  have hzeros : (Nat.toDigits 10 multiple).reverse.takeWhile (· == '0') =
      List.replicate ((Nat.toDigits 10 multiple).reverse.takeWhile (· == '0')).length '0' := by
    rw [List.eq_replicate_iff]
    exact ⟨rfl, fun c hc => by simpa using List.mem_takeWhile_imp hc⟩
  refine ⟨((Nat.toDigits 10 multiple).reverse.takeWhile (· == '0')).length, ?_⟩
  have hreverse := congrArg List.reverse hsplit
  rw [List.reverse_append, List.reverse_reverse, hzeros, List.reverse_replicate] at hreverse
  exact hreverse.symm

theorem value_ofMultiple (multiple : ℕ) (place : ℤ) :
    (Digits.ofMultiple multiple place).value = multiple * 10 ^ place := by
  obtain ⟨k, hk⟩ := toDigits_split multiple place
  have hvalue := Nat.ofDigitChars_toDigits (b := 10) (n := multiple) (by decide) (by decide)
  have hpoint : (Digits.ofMultiple multiple place).point =
      (Digits.ofMultiple multiple place).digits.length + k + place := by
    have hlength := congrArg List.length hk
    rw [List.length_append, List.length_replicate] at hlength
    have hall : (Digits.ofMultiple multiple place).point = (Nat.toDigits 10 multiple).length + place := rfl
    rw [hall, hlength, Nat.cast_add]
  rw [hk, Nat.ofDigitChars_append, Nat.ofDigitChars_replicate_zero] at hvalue
  have hexponent : (Digits.ofMultiple multiple place).point -
      (Digits.ofMultiple multiple place).digits.length = k + place := by omega
  rw [Digits.value, hexponent, zpow_add₀ (by norm_num), zpow_natCast, ← mul_assoc]
  congr 1
  rw [mul_comm]
  exact_mod_cast hvalue

theorem findSome?_range {α : Type} {f : ℕ → Option α} {b : α} {count : ℕ}
    (h : (List.range count).findSome? f = some b) :
    ∃ n < count, f n = some b ∧ ∀ k < n, f k = none := by
  induction count with
  | zero => cases h
  | succ count ih =>
    rw [List.range_succ, List.findSome?_append] at h
    cases hfirst : (List.range count).findSome? f with
    | some found =>
      rw [hfirst, Option.some_or] at h
      obtain ⟨n, hn, hfound⟩ := ih (hfirst.trans h)
      exact ⟨n, hn.trans count.lt_succ_self, hfound⟩
    | none =>
      rw [hfirst, Option.none_or, List.findSome?_singleton] at h
      exact ⟨count, count.lt_succ_self, h, fun k hk =>
        List.findSome?_eq_none_iff.mp hfirst k (List.mem_range.mpr hk)⟩

/-- The shortest digits are those of the first of seventeen places that has a multiple. -/
theorem shortest_found (hv : Regular v.mantissa v.exponent) (hpos : 0 < v.mantissa) (tie : Tie) :
    ∃ n < 17, (∀ k < n, (Interval.around v).multiple? tie (v.magnitude - (k : ℕ)) = none) ∧
      ∃ multiple, (Interval.around v).multiple? tie (v.magnitude - (n : ℕ)) = some multiple ∧
        v.shortest tie = Digits.ofMultiple multiple (v.magnitude - n) := by
  obtain ⟨found, hfound⟩ : ∃ found, (List.range 17).findSome? (fun n : ℕ =>
      ((Interval.around v).multiple? tie (v.magnitude - n)).map fun multiple =>
        Digits.ofMultiple multiple (v.magnitude - n)) = some found := by
    rw [← Option.isSome_iff_exists, List.findSome?_isSome_iff]
    refine ⟨16, by decide, ?_⟩
    rw [Option.isSome_map]
    exact seventeen_suffice hv hpos tie
  have hshortest : v.shortest tie = found := by
    rw [Binary.shortest, if_neg hpos.ne']
    dsimp only
    rw [hfound]
    rfl
  obtain ⟨n, hlt, hn, hnone⟩ := findSome?_range hfound
  obtain ⟨multiple, hmultiple, rfl⟩ := Option.map_eq_some_iff.mp hn
  exact ⟨n, hlt, fun k hk => Option.map_eq_none_iff.mp (hnone k hk), multiple, hmultiple, hshortest⟩

theorem shortest_contained (hv : Regular v.mantissa v.exponent) (hpos : 0 < v.mantissa) (tie : Tie) :
    (Interval.around v).Contains (v.shortest tie).value := by
  obtain ⟨n, -, -, multiple, hmultiple, hshortest⟩ := shortest_found hv hpos tie
  rw [hshortest, value_ofMultiple]
  exact holds_iff.mp (multiple?_holds hmultiple)

theorem shortest_pos (hv : Regular v.mantissa v.exponent) (hpos : 0 < v.mantissa) (tie : Tie) :
    0 < (v.shortest tie).value := by
  have hlow : 0 < 4 * v.mantissa - 2 := by omega
  have hquotient := (bounds_of_contains (shortest_contained hv hpos tie)).1
  exact (div_pos_iff_of_pos_right (two_zpow_pos _)).mp (lt_of_lt_of_le (by exact_mod_cast hlow) hquotient)

/-- The decimal of a float is rounded to the float. -/
theorem rounded_shortest (hv : Regular v.mantissa v.exponent) (hpos : 0 < v.mantissa) (tie : Tie) :
    rounded (v.shortest tie).value = scaled v.mantissa v.exponent :=
  (rounded_iff_contains hv hpos (shortest_pos hv hpos tie)).mpr (shortest_contained hv hpos tie)

theorem shortest_alone (hv : Regular v.mantissa v.exponent) (hpos : 0 < v.mantissa)
    (hn : Regular n f) (h : (v.shortest tie).value = scaled n f) :
    scaled n f = scaled v.mantissa v.exponent := by
  rw [← rounded_shortest hv hpos tie, h, rounded_scaled hn.bounded hn.low]

theorem positional_cases (h : d.digits ≠ []) (hfraction : d.positional.2 = []) :
    ∃ c rest, d.digits = c :: rest ∧ rest.length + 1 ≤ d.point.toNat ∧
      d.positional.1 = c :: rest ++ List.replicate (d.point.toNat - (rest.length + 1)) '0' := by
  obtain ⟨c, rest, hdigits⟩ := List.exists_cons_of_ne_nil h
  rw [Digits.positional, if_neg h] at hfraction ⊢
  split at hfraction
  · exact absurd (List.append_eq_nil_iff.mp hfraction).2 h
  · rename_i hpoint
    have hlength : d.digits.length ≤ d.point.toNat := List.drop_eq_nil_iff.mp hfraction
    rw [if_neg hpoint]
    dsimp only
    rw [List.take_of_length_le hlength, hdigits]
    rw [hdigits] at hlength
    exact ⟨c, rest, rfl, hlength, rfl⟩

theorem positional_zero (hd : Leading d.digits) (h : d.positional = (['0'], [])) : d.digits = [] := by
  by_contra hne
  obtain ⟨c, rest, hdigits, -, hwhole⟩ := positional_cases hne (by rw [h])
  rw [h, List.cons_append, List.cons.injEq] at hwhole
  refine hd.head ?_
  rw [hdigits, hwhole.1]
  rfl

theorem positional_one (h : d.positional = (['1'], [])) : d.value = 1 := by
  have hne : d.digits ≠ [] := by
    intro hnil
    rw [Digits.positional, if_pos hnil] at h
    cases h
  obtain ⟨c, rest, hdigits, hpoint, hwhole⟩ := positional_cases hne (by rw [h])
  rw [h, List.cons_append, List.cons.injEq, List.nil_eq_append_iff, List.replicate_eq_nil_iff] at hwhole
  obtain ⟨hc, rfl, hzeros⟩ := hwhole
  have hexponent : d.point - d.digits.length = 0 := by
    rw [hdigits, List.length_singleton]
    rw [List.length_nil] at hzeros hpoint
    omega
  rw [Digits.value, hexponent, hdigits, ← hc, zpow_zero, mul_one]
  rfl

def Digits.text (d : Digits) : List Char :=
  d.positional.1 ++ if d.positional.2 = [] then [] else '.' :: d.positional.2

theorem toList_plain {x : Float} (h : Value.ofFloat x = .finite v) :
    (plain x).toList = (if v.negative then ['-'] else []) ++ (v.shortest .up).text := by
  rw [plain, String.toList_ofList, Layout.write, h]
  dsimp only
  rw [numeral_plain, Layout.spell]
  dsimp only
  rw [List.append_nil, List.append_assoc]
  rfl

theorem text_single {c : Char} (hc : c ≠ '.') (h : d.text = [c]) : d.positional = ([c], []) := by
  rw [Digits.text] at h
  split at h
  · rename_i hfraction
    rw [List.append_nil] at h
    exact Prod.ext h hfraction
  · have hmem : '.' ∈ [c] := by
      rw [← h]
      exact List.mem_append_right _ List.mem_cons_self
    exact absurd (List.mem_singleton.mp hmem).symm hc

theorem whole_ne_nil (d : Digits) : d.positional.1 ≠ [] := by
  intro hwhole
  rw [Digits.positional] at hwhole
  split at hwhole
  · cases hwhole
  · rename_i hdigits
    split at hwhole
    · cases hwhole
    · rename_i hpoint
      have htake := (List.append_eq_nil_iff.mp hwhole).1
      rw [List.take_eq_nil_iff] at htake
      rcases htake with hzero | hnil
      · omega
      · exact hdigits hnil

theorem text_ne_nil (d : Digits) : d.text ≠ [] := fun h =>
  whole_ne_nil d (List.append_eq_nil_iff.mp h).1

theorem text_unsigned (hd : Leading d.digits) : '-' ∉ d.text := by
  intro hmem
  rw [Digits.text, List.mem_append] at hmem
  rcases hmem with hmem | hmem
  · exact absurd (digits_whole hd _ hmem) (by decide)
  · split at hmem
    · cases hmem
    · rcases List.mem_cons.mp hmem with heq | hmem
      · exact absurd heq (by decide)
      · exact absurd (digits_fraction hd _ hmem) (by decide)

theorem sign_split {c : Char} {text : List Char} (negative : Bool) (hc : c ≠ '-') (h : '-' ∉ text) :
    ((if negative then ['-'] else []) ++ text = [c] ↔ negative = false ∧ text = [c]) ∧
      ((if negative then ['-'] else []) ++ text = ['-', c] ↔ negative = true ∧ text = [c]) := by
  cases negative with
  | false =>
    refine ⟨⟨fun heq => ⟨rfl, heq⟩, fun heq => heq.2⟩, fun heq => ?_, fun heq => nomatch heq.1⟩
    have htext : text = ['-', c] := heq
    rw [htext] at h
    exact absurd List.mem_cons_self h
  | true =>
    refine ⟨⟨fun heq => ?_, fun heq => nomatch heq.1⟩, fun heq => ⟨rfl, ?_⟩, fun heq => ?_⟩
    · exact absurd (List.cons.inj heq).1.symm hc
    · exact (List.cons.inj heq).2
    · rw [heq.2]
      rfl

theorem plain_ne_sign {x : Float} (h : x.isFinite = true) : plain x ≠ "" ∧ plain x ≠ "-" := by
  obtain ⟨v, hv, -⟩ := Value.ofFloat_finite h
  have hnil := text_ne_nil (v.shortest .up)
  have hunsigned := text_unsigned (leading_shortest v .up)
  have hlist := toList_plain hv
  constructor
  · intro heq
    rw [heq] at hlist
    exact hnil (List.append_eq_nil_iff.mp hlist.symm).2
  · intro heq
    rw [heq] at hlist
    have hsingle : ['-'] = (if v.negative then ['-'] else []) ++ (v.shortest .up).text := hlist
    split at hsingle
    · exact hnil (List.cons.inj hsingle).2.symm
    · rw [List.nil_append] at hsingle
      rw [← hsingle] at hunsigned
      exact hunsigned List.mem_cons_self

theorem text_ne_zero (hv : Regular v.mantissa v.exponent) (hpos : 0 < v.mantissa) (tie : Tie) :
    (v.shortest tie).text ≠ ['0'] := by
  intro h
  have hdigits := positional_zero (leading_shortest v tie) (text_single (by decide) h)
  have hvalue := shortest_pos hv hpos tie
  rw [Digits.value, hdigits] at hvalue
  exact absurd hvalue (by simp [Nat.ofDigitChars])

theorem text_one (hv : Regular v.mantissa v.exponent) (hpos : 0 < v.mantissa)
    (h : (v.shortest tie).text = ['1']) : scaled v.mantissa v.exponent = 1 := by
  have hvalue := positional_one (text_single (by decide) h)
  have hone : scaled (2 ^ 52) (-52) = 1 := by
    rw [← exact_of_unpack unpack_one, exact_one]
  have hregular : Regular (2 ^ 52) (-52) := ⟨by decide, by decide, Or.inl le_rfl⟩
  rw [← shortest_alone hv hpos hregular (hvalue.trans hone.symm), hone]

theorem plain_of_ne_zero {x : Float} (h : x.isFinite = true) (hne : exact x ≠ 0) :
    plain x ≠ "0" ∧ plain x ≠ "-0" ∧ (plain x = "1" → exact x = 1) ∧
      (plain x = "-1" → exact x = -1) := by
  obtain ⟨v, hv, hexact, hcases⟩ := Value.ofFloat_finite h
  obtain ⟨hpos, hregular, -⟩ := hcases.resolve_left fun hzero => hne (by
    rw [hexact, Binary.worth, hzero.1, scaled, Nat.cast_zero, zero_mul, neg_zero, ite_self])
  have hunsigned := text_unsigned (leading_shortest v .up)
  have hzero := sign_split v.negative (show '0' ≠ '-' by decide) hunsigned
  have hone := sign_split v.negative (show '1' ≠ '-' by decide) hunsigned
  have hlist : ∀ {text : String}, plain x = text →
      (if v.negative then ['-'] else []) ++ (v.shortest .up).text = text.toList := by
    rintro text rfl
    exact (toList_plain hv).symm
  refine ⟨fun heq => ?_, fun heq => ?_, fun heq => ?_, fun heq => ?_⟩
  · exact text_ne_zero hregular hpos .up (hzero.1.mp (hlist heq)).2
  · exact text_ne_zero hregular hpos .up (hzero.2.mp (hlist heq)).2
  · obtain ⟨hsign, htext⟩ := hone.1.mp (hlist heq)
    rw [hexact, Binary.worth, hsign, text_one hregular hpos htext]
    rfl
  · obtain ⟨hsign, htext⟩ := hone.2.mp (hlist heq)
    rw [hexact, Binary.worth, hsign, text_one hregular hpos htext]
    rfl

end Tableaux.Decimal
