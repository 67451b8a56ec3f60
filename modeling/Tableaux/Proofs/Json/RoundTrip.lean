import Tableaux.Json.Reader
import Tableaux.Json.Writer
import Tableaux.Proofs.Json.Escape
import Tableaux.Proofs.Json.Numeral

/-!
# A written JSON value is read back

The compact text of a value is taken apart into the tokens it was written from, and
these are put together into the same value, at any depth. Its strings must be texts
and its numbers must be written as numbers are.
-/
namespace Tableaux.Json

def Token.Plain : Token → Prop
  | .number n => WellFormed n
  | .string s => ∃ chars : List Char, s = chars.map .scalar
  | _ => True

theorem endsNumber_cons {c : Char} (h : Decimal.isDigit c = false ∧ c ≠ '.' ∧ c ≠ 'e' ∧ c ≠ 'E')
    (rest : List Char) : EndsNumber (c :: rest) := by
  intro d hd
  obtain rfl : c = d := Option.some.inj hd
  exact h

def StartsNumber (c : Char) : Prop := c = '-' ∨ Decimal.isDigit c = true

theorem StartsNumber.ne {c d : Char} (h : StartsNumber c)
    (hd : d ≠ '-' ∧ Decimal.isDigit d = false) : c ≠ d := by
  rintro rfl
  rcases h with h | h
  · exact hd.1 h
  · exact absurd (h.symm.trans hd.2) (by decide)

theorem spell_head {n : Decimal.Numeral} (h : WellFormed n) :
    ∃ c rest, layout.spell n = c :: rest ∧ StartsNumber c := by
  obtain ⟨c, whole, hw⟩ := List.exists_cons_of_ne_nil h.whole
  rw [spell_eq]
  cases n.negative with
  | true => exact ⟨'-', _, rfl, Or.inl rfl⟩
  | false => exact ⟨c, _, by rw [hw]; rfl, Or.inr (h.wholeDigits c (by simp [hw]))⟩

theorem readToken_number {c : Char} (h : StartsNumber c) (rest : List Char) :
    readToken (c :: rest) =
      (readNumber (c :: rest)).map fun (n, behind) => (.number n, behind) := by
  unfold readToken
  split
  case h_11 => rfl
  -- No other token starts with a minus sign or a digit.
  all_goals
    rename_i heq
    exact absurd (List.cons.inj heq).1 (h.ne (by decide))

theorem readToken_text {t : Token} (h : t.Plain) {rest : List Char}
    (hr : ∀ n, t = .number n → EndsNumber rest) : readToken (t.text ++ rest) = some (t, rest) := by
  cases t with
  | number n =>
    have hread := readNumber_spell h (hr n rfl)
    obtain ⟨c, tail, htext, hc⟩ := spell_head h
    rw [htext, List.cons_append] at hread
    rw [Token.text, htext, List.cons_append, readToken_number hc, hread]
    rfl
  | string s =>
    obtain ⟨chars, rfl⟩ := h
    have hread := readString_codePoints chars rest
    simp only [Token.text, List.cons_append, List.append_assoc, List.nil_append, readToken, hread,
      Option.map_some]
  | bool b => cases b <;> rfl
  | objectStart | objectEnd | arrayStart | arrayEnd | comma | colon | null => rfl

theorem text_head {t : Token} (h : t.Plain) :
    ∃ c rest, t.text = c :: rest ∧ isSpace c = false := by
  cases t with
  | number n =>
    obtain ⟨c, rest, htext, hc⟩ := spell_head h
    refine ⟨c, rest, htext, ?_⟩
    simp [isSpace, hc.ne (d := ' ') (by decide), hc.ne (d := '\n') (by decide),
      hc.ne (d := '\t') (by decide), hc.ne (d := '\r') (by decide)]
  | string s => exact ⟨'"', _, rfl, by decide⟩
  | bool b => cases b <;> exact ⟨_, _, rfl, by decide⟩
  | objectStart | objectEnd | arrayStart | arrayEnd | comma | colon | null =>
    exact ⟨_, _, rfl, by decide⟩

theorem tokens_cons {c : Char} (hc : isSpace c = false) {text behind : List Char} {t : Token}
    (h : readToken (c :: text) = some (t, behind)) :
    tokens? (c :: text) = (tokens? behind).map (t :: ·) := by
  rw [tokens?, if_neg (by simp [hc])]
  split
  · rename_i hnone
    rw [h] at hnone
    cases hnone
  · rename_i hsome
    rw [h] at hsome
    cases hsome
    rfl

theorem tokens_text {t : Token} (h : t.Plain) {rest : List Char}
    (hr : ∀ n, t = .number n → EndsNumber rest) :
    tokens? (t.text ++ rest) = (tokens? rest).map (t :: ·) := by
  have hread := readToken_text h hr
  obtain ⟨c, tail, htext, hc⟩ := text_head h
  rw [htext] at hread ⊢
  exact tokens_cons hc hread

def Value.Plain (v : Value) : Prop := ∀ t ∈ v.tokens, t.Plain

def spelled (tokens : List Token) : List Char := tokens.flatMap Token.text

theorem spelled_cons (t : Token) (tokens : List Token) (rest : List Char) :
    spelled (t :: tokens) ++ rest = t.text ++ (spelled tokens ++ rest) := by
  simp [spelled]

theorem spelled_append (first second : List Token) (rest : List Char) :
    spelled (first ++ second) ++ rest = spelled first ++ (spelled second ++ rest) := by
  simp [spelled]

/-- Reads the tokens back, whatever follows them. -/
def Scans (tokens : List Token) (rest : List Char) : Prop :=
  tokens? (spelled tokens ++ rest) = (tokens? rest).map (tokens ++ ·)

theorem Scans.nil (rest : List Char) : Scans [] rest := by
  simp [Scans, spelled]

theorem Scans.single {t : Token} (h : t.Plain) {rest : List Char}
    (hr : ∀ n, t = .number n → EndsNumber rest) : Scans [t] rest := by
  simpa [Scans, spelled] using tokens_text h hr

theorem Scans.append {first second : List Token} {rest : List Char}
    (hf : Scans first (spelled second ++ rest)) (hs : Scans second rest) :
    Scans (first ++ second) rest := by
  rw [Scans, spelled_append, hf, hs, Option.map_map]
  simp [Function.comp_def]

theorem Scans.cons {t : Token} (h : t.Plain) (hn : ∀ n, t ≠ .number n) {tokens : List Token}
    {rest : List Char} (ht : Scans tokens rest) : Scans (t :: tokens) rest :=
  Scans.append (Scans.single h fun n e => absurd e (hn n)) ht

theorem endsNumber_items (items : List Value) {rest : List Char} (h : EndsNumber rest) :
    EndsNumber (spelled (Value.itemTokens items) ++ rest) := by
  cases items with
  | nil => simpa [Value.itemTokens, spelled] using h
  | cons item items =>
    rw [Value.itemTokens, List.cons_append, spelled_cons]
    exact endsNumber_cons (by decide) _

theorem endsNumber_fields (fields : List (List CodePoint × Value)) {rest : List Char}
    (h : EndsNumber rest) : EndsNumber (spelled (Value.fieldTokens fields) ++ rest) := by
  cases fields with
  | nil => simpa [Value.fieldTokens, spelled] using h
  | cons field fields =>
    rw [Value.fieldTokens, List.cons_append, spelled_cons]
    exact endsNumber_cons (by decide) _

theorem scans_arrayEnd (rest : List Char) : Scans [.arrayEnd] rest :=
  Scans.single (t := .arrayEnd) trivial nofun

theorem scans_objectEnd (rest : List Char) : Scans [.objectEnd] rest :=
  Scans.single (t := .objectEnd) trivial nofun

theorem Scans.comma {tokens : List Token} {rest : List Char} (h : Scans tokens rest) :
    Scans (.comma :: tokens) rest :=
  Scans.cons (t := .comma) trivial nofun h

theorem Scans.key {key : List CodePoint} (hk : (Token.string key).Plain) {tokens : List Token}
    {rest : List Char} (h : Scans tokens rest) :
    Scans (.string key :: .colon :: tokens) rest :=
  Scans.cons hk nofun (Scans.cons (t := .colon) trivial nofun h)

mutual
theorem scans_value : ∀ (v : Value) {rest : List Char}, v.Plain → EndsNumber rest →
    Scans v.tokens rest
  | .null, rest, _, _ => Scans.single (t := .null) trivial nofun
  | .bool b, rest, _, _ => Scans.single (t := .bool b) trivial nofun
  | .number n, rest, h, hr => Scans.single (h _ List.mem_cons_self) fun _ _ => hr
  | .string s, rest, h, _ => Scans.single (t := .string s) (h _ List.mem_cons_self) nofun
  | .array [], rest, _, _ => Scans.cons (t := .arrayStart) trivial nofun (scans_arrayEnd rest)
  | .array (item :: items), rest, h, _ => by
    rw [Value.Plain, Value.tokens] at h
    rw [Value.tokens]
    have hend : EndsNumber (spelled [.arrayEnd] ++ rest) := endsNumber_cons (by decide) _
    have hitem := scans_value item (fun t ht => h t (by simp [ht])) (endsNumber_items items hend)
    have hitems := scans_items items (fun t ht => h t (by simp [ht])) hend
    exact Scans.append (Scans.append (Scans.cons (t := .arrayStart) trivial nofun hitem) hitems)
      (scans_arrayEnd rest)
  | .object [], rest, _, _ => Scans.cons (t := .objectStart) trivial nofun (scans_objectEnd rest)
  | .object ((key, value) :: fields), rest, h, _ => by
    rw [Value.Plain, Value.tokens] at h
    rw [Value.tokens]
    have hend : EndsNumber (spelled [.objectEnd] ++ rest) := endsNumber_cons (by decide) _
    have hvalue := scans_value value (fun t ht => h t (by simp [ht]))
      (endsNumber_fields fields hend)
    have hfields := scans_fields fields (fun t ht => h t (by simp [ht])) hend
    have hkey := Scans.key (h (.string key) (by simp)) hvalue
    exact Scans.append (Scans.append (Scans.cons (t := .objectStart) trivial nofun hkey) hfields)
      (scans_objectEnd rest)

theorem scans_items : ∀ (items : List Value) {rest : List Char},
    (∀ t ∈ Value.itemTokens items, t.Plain) → EndsNumber rest →
    Scans (Value.itemTokens items) rest
  | [], rest, _, _ => Scans.nil rest
  | item :: items, rest, h, hr => by
    rw [Value.itemTokens] at h ⊢
    have hitem := scans_value item (fun t ht => h t (by simp [ht])) (endsNumber_items items hr)
    exact Scans.append hitem.comma (scans_items items (fun t ht => h t (by simp [ht])) hr)

theorem scans_fields : ∀ (fields : List (List CodePoint × Value)) {rest : List Char},
    (∀ t ∈ Value.fieldTokens fields, t.Plain) → EndsNumber rest →
    Scans (Value.fieldTokens fields) rest
  | [], rest, _, _ => Scans.nil rest
  | (key, value) :: fields, rest, h, hr => by
    rw [Value.fieldTokens] at h ⊢
    have hvalue := scans_value value (fun t ht => h t (by simp [ht]))
      (endsNumber_fields fields hr)
    have hkey := Scans.key (h (.string key) (by simp)) hvalue
    exact Scans.append hkey.comma (scans_fields fields (fun t ht => h t (by simp [ht])) hr)
end

theorem tokens_first (v : Value) :
    ∃ t tokens, v.tokens = t :: tokens ∧ t ≠ .arrayEnd := by
  match v with
  | .null | .bool _ | .number _ | .string _ => exact ⟨_, _, rfl, nofun⟩
  | .array [] | .object [] => exact ⟨_, _, rfl, nofun⟩
  | .array (item :: items) => exact ⟨.arrayStart, _, by rw [Value.tokens]; rfl, nofun⟩
  | .object ((key, value) :: fields) => exact ⟨.objectStart, _, by rw [Value.tokens]; rfl, nofun⟩

theorem ofTokens_firstItem (v : Value) (stack : List Frame) (rest : List Token) :
    ofTokens? .itemOrEnd stack (v.tokens ++ rest)
      = ofTokens? .value (.array [] :: stack) (v.tokens ++ rest) := by
  obtain ⟨t, tokens, htokens, ht⟩ := tokens_first v
  have hstep : step .itemOrEnd stack t = step .value (.array [] :: stack) t := by
    cases t <;> first | rfl | exact absurd rfl ht
  rw [htokens, List.cons_append, ofTokens?, ofTokens?, hstep]

mutual
theorem ofTokens_value : ∀ (v : Value) (stack : List Frame) (rest : List Token),
    ofTokens? .value stack (v.tokens ++ rest) = ofTokens? (.afterValue v) stack rest
  | .null, stack, rest => rfl
  | .bool b, stack, rest => rfl
  | .number n, stack, rest => rfl
  | .string s, stack, rest => rfl
  | .array [], stack, rest => rfl
  | .array (item :: items), stack, rest => by
    rw [Value.tokens]
    simp only [List.cons_append, List.append_assoc]
    change ofTokens? .itemOrEnd stack _ = _
    rw [ofTokens_firstItem, ofTokens_value item, List.nil_append,
      ofTokens_items items [] item stack rest]
    rfl
  | .object [], stack, rest => rfl
  | .object ((key, value) :: fields), stack, rest => by
    rw [Value.tokens]
    simp only [List.cons_append, List.append_assoc]
    change ofTokens? .value (.object [] key :: stack) _ = _
    rw [ofTokens_value value, List.nil_append,
      ofTokens_fields fields [] key value stack rest]
    rfl

theorem ofTokens_items : ∀ (items done : List Value) (v : Value) (stack : List Frame)
    (rest : List Token),
    ofTokens? (.afterValue v) (.array done :: stack)
        (Value.itemTokens items ++ .arrayEnd :: rest)
      = ofTokens? (.afterValue (.array (done.reverse ++ v :: items))) stack rest
  | [], done, v, stack, rest => by
    change ofTokens? (.afterValue (.array (v :: done).reverse)) stack rest = _
    rw [List.reverse_cons]
  | item :: items, done, v, stack, rest => by
    rw [Value.itemTokens]
    simp only [List.cons_append, List.append_assoc]
    change ofTokens? .value (.array (v :: done) :: stack) _ = _
    rw [ofTokens_value item, ofTokens_items items (v :: done) item stack rest]
    simp

theorem ofTokens_fields : ∀ (fields done : List (List CodePoint × Value)) (key : List CodePoint)
    (v : Value) (stack : List Frame) (rest : List Token),
    ofTokens? (.afterValue v) (.object done key :: stack)
        (Value.fieldTokens fields ++ .objectEnd :: rest)
      = ofTokens? (.afterValue (.object (done.reverse ++ (key, v) :: fields))) stack rest
  | [], done, key, v, stack, rest => by
    change ofTokens? (.afterValue (.object ((key, v) :: done).reverse)) stack rest = _
    rw [List.reverse_cons]
  | (next, value) :: fields, done, key, v, stack, rest => by
    rw [Value.fieldTokens]
    simp only [List.cons_append, List.append_assoc]
    change ofTokens? .value (.object ((key, v) :: done) next :: stack) _ = _
    rw [ofTokens_value value, ofTokens_fields fields ((key, v) :: done) next value stack rest]
    simp
end

theorem ofText_compact {v : Value} (h : v.Plain) : ofText? v.compact = some v := by
  have hscan : Scans v.tokens [] := scans_value v h (by simp [EndsNumber])
  have htokens : tokens? (v.tokens.flatMap Token.text) = some v.tokens := by
    simpa [Scans, spelled, tokens?] using hscan
  have hread : ofTokens? .value [] v.tokens = some v := by
    simpa [ofTokens?] using ofTokens_value v [] []
  rw [ofText?, Value.compact, String.toList_ofList, htokens, Option.bind_some, hread]

end Tableaux.Json
