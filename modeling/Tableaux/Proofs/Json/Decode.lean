import Tableaux.Proofs.Decimal.Binary64
import Tableaux.Proofs.Json.RoundTrip

/-!
# Decoding what was encoded

Texts, flags and integers within their range are decoded from the value that stands for
them. A float is decoded only if it is finite, since JSON has no other numbers, and
then whatever is made of floats is decoded exactly if all of them are finite.
-/
namespace Tableaux.Json

variable {α β : Type} {P Q : Prop}

/-- There is a result exactly under a condition, and then it is the given value. -/
structure Regains (P : Prop) (a : α) (r : Option α) : Prop where
  some : P → r = some a
  none : ¬ P → r = none

theorem Regains.sure (a : α) : Regains True a (.some a) := ⟨fun _ => rfl, fun h => (h trivial).elim⟩

theorem Regains.accepted {a : α} {r : Option α} (h : Regains P a r) :
    ((∃ b, r = .some b) ↔ P) ∧ ∀ b, r = .some b → b = a := by
  by_cases hp : P
  · rw [h.some hp]
    exact ⟨⟨fun _ => hp, fun _ => ⟨a, rfl⟩⟩, fun b hb => (Option.some.inj hb).symm⟩
  · rw [h.none hp]
    exact ⟨⟨fun ⟨b, hb⟩ => absurd hb nofun, fun hp' => absurd hp' hp⟩, fun b hb => absurd hb nofun⟩

theorem Regains.congr {a : α} {r : Option α} (h : Regains P a r) (hpq : P ↔ Q) : Regains Q a r :=
  ⟨fun hq => h.some (hpq.mpr hq), fun hq => h.none fun hp => hq (hpq.mp hp)⟩

theorem Regains.bind {a : α} {b : β} {r : Option α} {f : α → Option β} (h : Regains P a r)
    (hf : Regains Q b (f a)) : Regains (P ∧ Q) b (r >>= f) := by
  constructor
  · rintro ⟨hp, hq⟩
    rw [h.some hp]
    exact hf.some hq
  · intro hpq
    by_cases hp : P
    · rw [h.some hp]
      exact hf.none fun hq => hpq ⟨hp, hq⟩
    · rw [h.none hp]
      rfl

theorem Regains.map {a : α} {r : Option α} (h : Regains P a r) (f : α → β) :
    Regains P (f a) (r.map f) := by
  constructor
  · intro hp
    rw [h.some hp, Option.map_some]
  · intro hp
    rw [h.none hp, Option.map_none]

theorem Regains.mapM {f : β → Option α} {g : α → β} {P : α → Prop} (xs : List α)
    (h : ∀ x ∈ xs, Regains (P x) x (f (g x))) :
    Regains (∀ x ∈ xs, P x) xs ((xs.map g).mapM f) := by
  induction xs with
  | nil => exact (Regains.sure []).congr (by simp)
  | cons x xs ih =>
    rw [List.map_cons, List.mapM_cons]
    have hx := h x List.mem_cons_self
    have hxs := ih fun y hy => h y (List.mem_cons_of_mem _ hy)
    exact (hx.bind (hxs.bind (Regains.sure (x :: xs)))).congr (by simp)

theorem list_ofList {f : Value → Option α} {g : α → Value} {P : α → Prop} {xs : List α}
    (h : ∀ x ∈ xs, Regains (P x) x (f (g x))) :
    Regains (∀ x ∈ xs, P x) xs ((ofList g xs).list? f) :=
  Regains.mapM xs h

theorem fields_regained {encode : String × Value → List CodePoint × Value}
    {decode : List CodePoint × Value → Option (String × Value)}
    (hencode : ∀ field, encode field = (codePoints field.1, field.2))
    (hdecode : ∀ name value, decode (name, value) = (text? name).map (·, value))
    (fields : List (String × Value)) : (fields.map encode).mapM decode = some fields := by
  induction fields with
  | nil => rfl
  | cons field fields ih =>
    rw [List.map_cons, List.mapM_cons, ih, hencode, hdecode, text_codePoints]
    rfl

theorem fields_record (fields : List (String × Value)) (names : List String) :
    (record fields).fields? names = names.mapM (field? fields) := by
  rw [record, Value.fields?, fields_regained (fun _ => rfl) (fun _ _ => rfl)]
  rfl

theorem optional_regained {f : Value → Option α} {g : α → Value} {P : α → Prop} {o : Option α}
    (hg : ∀ a, g a ≠ .null) (h : ∀ a ∈ o, Regains (P a) a (f (g a))) :
    Regains (∀ a ∈ o, P a) o (optional? f (o.map g)) := by
  cases o with
  | none => exact (Regains.sure none).congr (by simp)
  | some a =>
    have hpresent : optional? f (some (g a)) = (f (g a)).map some := by
      cases hv : g a with
      | null => exact absurd hv (hg a)
      | bool | number | string | array | object => rfl
    rw [Option.map_some, hpresent]
    exact ((h a rfl).map some).congr (by simp)

theorem string_ofString (s : String) : Regains True s (ofString s).string? := by
  rw [ofString, Value.string?, text_codePoints]
  exact Regains.sure s

theorem bool_bool (b : Bool) : Regains True b (Value.bool b).bool? := Regains.sure b

theorem index_ofNat (i : UInt64) : Regains True i (ofNat i.toNat).index? := by
  have hlimit : i.toNat < Nat.pow 2 64 := i.toNat_lt
  have hread : (ofNat i.toNat).index? = some i := by
    simp [ofNat, Value.index?, index?, integer?, Nat.ofDigitChars_ten_toDigits, hlimit]
  rw [hread]
  exact Regains.sure i

theorem signed_ofInt (n : Int64) : Regains True n (ofInt n.toInt).signed? := by
  have hlow := n.le_toInt
  have hhigh := n.toInt_lt
  have hlimit : Nat.pow 2 63 = 9223372036854775808 := rfl
  have hread : (ofInt n.toInt).signed? = (some n.toInt).map Int64.ofInt := by
    simp only [ofInt, Value.signed?, signed?, integer?, Nat.ofDigitChars_ten_toDigits, hlimit,
      and_self, if_true, decide_eq_true_eq]
    split
    · rw [if_pos (by omega)]
      congr 2
      omega
    · rw [if_pos (by omega)]
      congr 2
      omega
  rw [hread, Option.map_some, Int64.ofInt_toInt]
  exact Regains.sure n

/-- A float is restored if its text is read back as that float. Reading scales by powers of ten
in float arithmetic, so this is not a matter of course. -/
def Restores (x : Float) : Prop := (ofText? (ofFloat x).compact).bind Value.float? = some x

instance (x : Float) : Decidable (Restores x) := inferInstanceAs (Decidable (_ = _))

theorem plain_ofFloat (x : Float) : (ofFloat x).Plain := by
  intro t ht
  unfold ofFloat at ht
  split at ht
  · obtain rfl := List.mem_singleton.mp ht
    exact wellFormed_numeral _
  · obtain rfl := List.mem_singleton.mp ht
    exact trivial

theorem restores_iff (x : Float) : Restores x ↔ (ofFloat x).float? = some x := by
  rw [Restores, ofText_compact (plain_ofFloat x)]
  exact Iff.rfl

theorem ofFloat_not_finite {x : Float} (h : x.isFinite ≠ true) : ofFloat x = .null := by
  have hmodel : x.toModel.unpack.isFinite ≠ true := h
  unfold ofFloat Decimal.Value.ofFloat
  cases hx : x.toModel.unpack with
  | infinity s => rfl
  | notANumber => rfl
  | finite s m e hm => rw [hx] at hmodel; exact absurd rfl hmodel
  | zero s => rw [hx] at hmodel; exact absurd rfl hmodel

theorem float_ofFloat {x : Float} (h : x.isFinite = true → Restores x) :
    Regains (x.isFinite = true) x (ofFloat x).float? := by
  constructor
  · intro hx
    exact (restores_iff x).mp (h hx)
  · intro hx
    rw [ofFloat_not_finite hx]
    rfl

theorem plain_codePoints (s : String) : (Token.string (codePoints s)).Plain := ⟨s.toList, rfl⟩

theorem plain_ofString (s : String) : (ofString s).Plain := by
  intro t ht
  obtain rfl := List.mem_singleton.mp ht
  exact plain_codePoints s

theorem plain_bool (b : Bool) : (Value.bool b).Plain := by
  intro t ht
  obtain rfl := List.mem_singleton.mp ht
  exact trivial

theorem plain_ofNat (n : Nat) : (ofNat n).Plain := by
  intro t ht
  obtain rfl := List.mem_singleton.mp ht
  exact wellFormed_integer false n

theorem plain_ofInt (n : Int) : (ofInt n).Plain := by
  intro t ht
  obtain rfl := List.mem_singleton.mp ht
  exact wellFormed_integer _ n.natAbs

theorem plain_itemTokens {items : List Value} (h : ∀ v ∈ items, v.Plain) :
    ∀ t ∈ Value.itemTokens items, t.Plain := by
  induction items with
  | nil => exact fun t ht => absurd ht (by simp [Value.itemTokens])
  | cons item items ih =>
    intro t ht
    rw [Value.itemTokens, List.cons_append, List.mem_cons, List.mem_append] at ht
    rcases ht with rfl | ht | ht
    · exact trivial
    · exact h item List.mem_cons_self t ht
    · exact ih (fun v hv => h v (List.mem_cons_of_mem _ hv)) t ht

theorem plain_array {items : List Value} (h : ∀ v ∈ items, v.Plain) : (Value.array items).Plain := by
  intro t ht
  cases items with
  | nil =>
    rcases List.mem_pair.mp ht with rfl | rfl
    · exact trivial
    · exact trivial
  | cons item items =>
    rw [Value.tokens] at ht
    simp only [List.cons_append, List.mem_cons, List.mem_append, List.not_mem_nil, or_false] at ht
    rcases ht with rfl | (ht | ht) | rfl
    · exact trivial
    · exact h item List.mem_cons_self t ht
    · exact plain_itemTokens (fun v hv => h v (List.mem_cons_of_mem _ hv)) t ht
    · exact trivial

theorem plain_ofList {g : α → Value} {xs : List α} (h : ∀ x ∈ xs, (g x).Plain) :
    (ofList g xs).Plain := by
  apply plain_array
  intro v hv
  obtain ⟨x, hx, rfl⟩ := List.mem_map.mp hv
  exact h x hx

theorem plain_fieldTokens {fields : List (String × Value)} (h : ∀ f ∈ fields, f.2.Plain) :
    ∀ t ∈ Value.fieldTokens (fields.map fun (name, value) => (codePoints name, value)),
      t.Plain := by
  induction fields with
  | nil => exact fun t ht => absurd ht (by simp [Value.fieldTokens])
  | cons field fields ih =>
    obtain ⟨name, value⟩ := field
    intro t ht
    rw [List.map_cons, Value.fieldTokens] at ht
    simp only [List.cons_append, List.mem_cons, List.mem_append] at ht
    rcases ht with rfl | rfl | rfl | ht | ht
    · exact trivial
    · exact plain_codePoints name
    · exact trivial
    · exact h (name, value) List.mem_cons_self t ht
    · exact ih (fun f hf => h f (List.mem_cons_of_mem _ hf)) t ht

theorem plain_record {fields : List (String × Value)} (h : ∀ f ∈ fields, f.2.Plain) :
    (record fields).Plain := by
  intro t ht
  cases fields with
  | nil =>
    rcases List.mem_pair.mp ht with rfl | rfl
    · exact trivial
    · exact trivial
  | cons field fields =>
    obtain ⟨name, value⟩ := field
    rw [record, List.map_cons, Value.tokens] at ht
    simp only [List.cons_append, List.mem_cons, List.mem_append, List.not_mem_nil, or_false] at ht
    rcases ht with rfl | rfl | rfl | (ht | ht) | rfl
    · exact trivial
    · exact plain_codePoints name
    · exact trivial
    · exact h (name, value) List.mem_cons_self t ht
    · exact plain_fieldTokens (fun f hf => h f (List.mem_cons_of_mem _ hf)) t ht
    · exact trivial

end Tableaux.Json
