import Tableaux.Reading.Number

/-!
# Outcomes of reading

What is read does not depend on the notes, so reading is followed on outcomes. Two
judgments are enough, and both pass through sequences and loops: what one run yields,
and how a strict run compares with a lenient one.
-/
namespace Tableaux.Reading

variable {ε α β : Type}

namespace Recorded

theorem outcome_mapM (f : α → Recorded ε β) (xs : List α) :
    (xs.mapM f).outcome = xs.mapM fun x => (f x).outcome := by
  induction xs with
  | nil => rfl
  | cons x xs ih =>
    rw [List.mapM_cons, List.mapM_cons, outcome_bind]
    simp only [outcome_bind, outcome_pure, ih]
    rfl

theorem outcome_foldlM (f : β → α → Recorded ε β) (b : β) (xs : List α) :
    (xs.foldlM f b).outcome = xs.foldlM (fun b x => (f b x).outcome) b := by
  induction xs generalizing b with
  | nil => rfl
  | cons x xs ih =>
    rw [List.foldlM_cons, List.foldlM_cons, outcome_bind]
    simp only [ih]

end Recorded

theorem mapM_ok {f : α → Except ε β} {g : α → β} {xs : List α} (h : ∀ x ∈ xs, f x = .ok (g x)) :
    xs.mapM f = .ok (xs.map g) := by
  induction xs with
  | nil => rfl
  | cons x xs ih =>
    rw [List.mapM_cons, h x List.mem_cons_self, ih fun y hy => h y (List.mem_cons_of_mem _ hy)]
    rfl

theorem foldlM_ok {f : β → α → Except ε β} {g : β → α → β} {xs : List α}
    (h : ∀ x ∈ xs, ∀ b, f b x = .ok (g b x)) (b : β) : xs.foldlM f b = .ok (xs.foldl g b) := by
  induction xs generalizing b with
  | nil => rfl
  | cons x xs ih =>
    rw [List.foldlM_cons, h x List.mem_cons_self]
    exact ih (fun y hy => h y (List.mem_cons_of_mem _ hy)) (g b x)

theorem bind_ok_iff {r : Except ε α} {f : α → Except ε β} {b : β} :
    r >>= f = .ok b ↔ ∃ a, r = .ok a ∧ f a = .ok b := by
  cases r <;> simp [bind, Except.bind]

theorem bind_error_iff {r : Except ε α} {f : α → Except ε β} {e : ε} :
    r >>= f = .error e ↔ r = .error e ∨ ∃ a, r = .ok a ∧ f a = .error e := by
  cases r <;> simp [bind, Except.bind]

theorem mapError_ok_iff {δ : Type} {g : ε → δ} {r : Except ε α} {a : α} :
    r.mapError g = .ok a ↔ r = .ok a := by
  cases r with
  | error e =>
    change Except.error (g e) = _ ↔ _
    simp
  | ok b =>
    change Except.ok b = _ ↔ _
    simp

theorem mapError_error_iff {δ : Type} {g : ε → δ} {r : Except ε α} {d : δ} :
    r.mapError g = .error d ↔ ∃ e, r = .error e ∧ g e = d := by
  cases r with
  | error e =>
    change Except.error (g e) = _ ↔ _
    simp
  | ok b =>
    change Except.ok b = _ ↔ _
    simp

theorem ok_of_mapM {f : α → Except ε β} {xs : List α} {ys : List β} (h : xs.mapM f = .ok ys) :
    ∀ x ∈ xs, ∃ y, f x = .ok y := by
  induction xs generalizing ys with
  | nil => exact fun x hx => absurd hx List.not_mem_nil
  | cons x xs ih =>
    rw [List.mapM_cons] at h
    obtain ⟨y, hy, h⟩ := bind_ok_iff.mp h
    obtain ⟨zs, hzs, -⟩ := bind_ok_iff.mp h
    intro a ha
    rcases List.mem_cons.mp ha with rfl | ha
    · exact ⟨y, hy⟩
    · exact ih hzs a ha

theorem ok_of_foldlM {f : β → α → Except ε β} {xs : List α} {b c : β}
    (h : xs.foldlM f b = .ok c) : ∀ x ∈ xs, ∃ d e, f d x = .ok e := by
  induction xs generalizing b with
  | nil => exact fun x hx => absurd hx List.not_mem_nil
  | cons x xs ih =>
    rw [List.foldlM_cons] at h
    obtain ⟨d, hd, h⟩ := bind_ok_iff.mp h
    intro a ha
    rcases List.mem_cons.mp ha with rfl | ha
    · exact ⟨b, d, hd⟩
    · exact ih h a ha

/-- A loop fails with the error of the first step that fails. -/
theorem mapM_error {f : α → Except ε β} {xs : List α} {e : ε} (h : xs.mapM f = .error e) :
    ∃ before x after, xs = before ++ x :: after ∧ (∀ y ∈ before, ∃ z, f y = .ok z) ∧
      f x = .error e := by
  induction xs with
  | nil => cases h
  | cons x xs ih =>
    rw [List.mapM_cons] at h
    rcases bind_error_iff.mp h with h | ⟨z, hz, h⟩
    · exact ⟨[], x, xs, rfl, fun y hy => absurd hy List.not_mem_nil, h⟩
    · rcases bind_error_iff.mp h with h | ⟨zs, -, h⟩
      · obtain ⟨before, y, after, rfl, hbefore, hy⟩ := ih h
        refine ⟨x :: before, y, after, rfl, ?_, hy⟩
        intro a ha
        rcases List.mem_cons.mp ha with rfl | ha
        · exact ⟨z, hz⟩
        · exact hbefore a ha
      · cases h

theorem foldlM_error {f : β → α → Except ε β} {xs : List α} {b : β} {e : ε}
    (h : xs.foldlM f b = .error e) :
    ∃ before x after d, xs = before ++ x :: after ∧ before.foldlM f b = .ok d ∧
      f d x = .error e := by
  induction xs generalizing b with
  | nil => cases h
  | cons x xs ih =>
    rw [List.foldlM_cons] at h
    rcases bind_error_iff.mp h with h | ⟨d, hd, h⟩
    · exact ⟨[], x, xs, b, rfl, rfl, h⟩
    · obtain ⟨before, y, after, c, rfl, hbefore, hy⟩ := ih h
      refine ⟨x :: before, y, after, c, rfl, ?_, hy⟩
      rw [List.foldlM_cons, hd]
      exact hbefore

/-- A result has the first property, and an error has the second one. -/
def Yields (P : α → Prop) (E : ε → Prop) : Except ε α → Prop
  | .ok a => P a
  | .error e => E e

theorem Yields.ok {P : α → Prop} {E : ε → Prop} {r : Except ε α} (h : Yields P E r) {a : α}
    (hr : r = .ok a) : P a := by
  subst hr; exact h

theorem Yields.error {P : α → Prop} {E : ε → Prop} {r : Except ε α} (h : Yields P E r) {e : ε}
    (hr : r = .error e) : E e := by
  subst hr; exact h

theorem Yields.weaken {P Q : α → Prop} {E F : ε → Prop} {r : Except ε α} (h : Yields P E r)
    (hp : ∀ a, P a → Q a) (he : ∀ e, E e → F e) : Yields Q F r := by
  cases r with
  | ok a => exact hp a h
  | error e => exact he e h

theorem Yields.bind {P : α → Prop} {Q : β → Prop} {E : ε → Prop} {r : Except ε α}
    {f : α → Except ε β} (h : Yields P E r) (hf : ∀ a, P a → Yields Q E (f a)) :
    Yields Q E (r >>= f) := by
  cases r with
  | ok a => exact hf a h
  | error e => exact h

theorem Yields.mapM {P : β → Prop} {E : ε → Prop} {f : α → Except ε β} {xs : List α}
    (h : ∀ x ∈ xs, Yields P E (f x)) : Yields (fun ys => ∀ y ∈ ys, P y) E (xs.mapM f) := by
  induction xs with
  | nil => exact fun y hy => absurd hy List.not_mem_nil
  | cons x xs ih =>
    rw [List.mapM_cons]
    apply (h x List.mem_cons_self).bind
    intro y hy
    apply (ih fun a ha => h a (List.mem_cons_of_mem _ ha)).bind
    intro ys hys a ha
    rcases List.mem_cons.mp ha with rfl | ha
    · exact hy
    · exact hys a ha

/-- The invariant of a loop. -/
theorem Yields.foldlM {I : β → Prop} {E : ε → Prop} {f : β → α → Except ε β} {b : β}
    {xs : List α} (hb : I b) (h : ∀ x ∈ xs, ∀ b, I b → Yields I E (f b x)) :
    Yields I E (xs.foldlM f b) := by
  induction xs generalizing b with
  | nil => exact hb
  | cons x xs ih =>
    rw [List.foldlM_cons]
    apply (h x List.mem_cons_self b hb).bind
    intro b' hb'
    exact ih hb' fun a ha => h a (List.mem_cons_of_mem _ ha)

theorem foldlM_step {f : β → α → Except ε β} {b b' : β} {x : α} (h : f b x = .ok b')
    (xs : List α) : (x :: xs).foldlM f b = xs.foldlM f b' := by
  rw [List.foldlM_cons, h]
  rfl

/-- A relation between two runs that passes through sequences. -/
structure Sequential (R : ∀ {α : Type}, Except ε α → Except ε α → Prop) : Prop where
  refl : ∀ {α : Type} (r : Except ε α), R r r
  bind : ∀ {α β : Type} {r s : Except ε α} {f g : α → Except ε β},
    R r s → (∀ a, R (f a) (g a)) → R (r >>= f) (s >>= g)

variable {R : ∀ {α : Type}, Except ε α → Except ε α → Prop}

theorem Sequential.mapM (hR : Sequential R) {f g : α → Except ε β} (h : ∀ a, R (f a) (g a))
    (xs : List α) : R (xs.mapM f) (xs.mapM g) := by
  induction xs with
  | nil => exact hR.refl _
  | cons x xs ih =>
    rw [List.mapM_cons, List.mapM_cons]
    apply hR.bind (h x)
    intro y
    apply hR.bind ih
    intro ys
    exact hR.refl _

theorem Sequential.foldlM (hR : Sequential R) {f g : β → α → Except ε β}
    (h : ∀ b x, R (f b x) (g b x)) (xs : List α) (b : β) :
    R (xs.foldlM f b) (xs.foldlM g b) := by
  induction xs generalizing b with
  | nil => exact hR.refl _
  | cons x xs ih =>
    rw [List.foldlM_cons, List.foldlM_cons]
    exact hR.bind (h b x) ih

theorem mapError_bind {δ : Type} (g : ε → δ) (r : Except ε α) (f : α → Except ε β) :
    (r >>= f).mapError g = r.mapError g >>= fun a => (f a).mapError g := by
  cases r <;> rfl

theorem mapError_mapM {δ : Type} {g : ε → δ} {f : α → Except ε β} {h : α → Except δ β}
    {xs : List α} (hf : ∀ x ∈ xs, h x = (f x).mapError g) :
    xs.mapM h = (xs.mapM f).mapError g := by
  induction xs with
  | nil => rfl
  | cons x xs ih =>
    have hxs := ih fun y hy => hf y (List.mem_cons_of_mem _ hy)
    rw [List.mapM_cons, List.mapM_cons, hf x List.mem_cons_self, hxs, mapError_bind]
    congr 1
    funext y
    rw [mapError_bind]
    rfl

/-- Errors that only strict reading reports. -/
def ReadError.IsRefusal : ReadError → Prop
  | .malformedNumber _ _ => True
  | .missingRelation _ => True
  | _ => False

/-- A strict run ends like the lenient one or with a refusal. -/
def Refines (strict lenient : Except ReadError α) : Prop :=
  strict = lenient ∨ ∃ e, strict = .error e ∧ e.IsRefusal

theorem Refines.refl (r : Except ReadError α) : Refines r r := Or.inl rfl

theorem Refines.ok {s l : Except ReadError α} (h : Refines s l) {a : α} (hs : s = .ok a) :
    l = .ok a := by
  rcases h with rfl | ⟨e, he, -⟩
  · exact hs
  · rw [hs] at he
    cases he

theorem Refines.error {s l : Except ReadError α} (h : Refines s l) {e : ReadError}
    (hl : l = .error e) : ∃ e', s = .error e' ∧ (e' = e ∨ e'.IsRefusal) := by
  rcases h with rfl | ⟨e', he, hr⟩
  · exact ⟨e, hl, Or.inl rfl⟩
  · exact ⟨e', he, Or.inr hr⟩

theorem Refines.bind {s l : Except ReadError α} {f g : α → Except ReadError β}
    (h : Refines s l) (hfg : ∀ a, Refines (f a) (g a)) : Refines (s >>= f) (l >>= g) := by
  rcases h with rfl | ⟨e, rfl, he⟩
  · cases s with
    | ok a => exact hfg a
    | error e => exact Or.inl rfl
  · exact Or.inr ⟨e, rfl, he⟩

theorem refines_sequential : Sequential Refines := ⟨.refl, .bind⟩

theorem Refines.mapM {f g : α → Except ReadError β} (h : ∀ a, Refines (f a) (g a))
    (xs : List α) : Refines (xs.mapM f) (xs.mapM g) :=
  refines_sequential.mapM h xs

theorem Refines.foldlM {f g : β → α → Except ReadError β}
    (h : ∀ b x, Refines (f b x) (g b x)) (xs : List α) (b : β) :
    Refines (xs.foldlM f b) (xs.foldlM g b) :=
  refines_sequential.foldlM h xs b

end Tableaux.Reading
