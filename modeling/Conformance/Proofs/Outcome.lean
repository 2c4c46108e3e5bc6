import Conformance.Text.Rest

/-! Taking apart what has succeeded or failed in steps. -/
namespace Conformance.Outcome

variable {ε ε' α β : Type} {x : Except ε α}

theorem bind_eq_ok {f : α → Except ε β} {b : β} :
    (x >>= f) = .ok b ↔ ∃ a, x = .ok a ∧ f a = .ok b := by
  cases x with
  | error e => simp [bind, Except.bind]
  | ok a => simp [bind, Except.bind]

theorem map_eq_ok {f : α → β} {b : β} : x.map f = .ok b ↔ ∃ a, x = .ok a ∧ f a = b := by
  cases x with
  | error e => simp [Except.map]
  | ok a => simp [Except.map]

theorem mapError_eq_ok {f : ε → ε'} {a : α} : x.mapError f = .ok a ↔ x = .ok a := by
  cases x with
  | error e => exact ⟨nofun, nofun⟩
  | ok b => exact ⟨fun h => congrArg _ (Except.ok.inj h), fun h => congrArg _ (Except.ok.inj h)⟩

/-- Going through a list succeeds if every step of it does. -/
theorem eq_ok_of_toOption {a : α} (h : x.toOption = some a) : x = .ok a := by
  cases x with
  | error e => cases h
  | ok b => exact congrArg Except.ok (Option.some.inj h)

theorem forM_eq_ok {xs : List α} {f : α → Except ε Unit} :
    xs.forM f = .ok () ↔ ∀ a ∈ xs, f a = .ok () := by
  induction xs with
  | nil => simp [pure, Except.pure]
  | cons a xs ih =>
    simp only [List.forM_eq_forM, List.forM_cons, bind_eq_ok, List.mem_cons, forall_eq_or_imp]
    constructor
    · rintro ⟨_, ha, hxs⟩
      exact ⟨ha, ih.mp hxs⟩
    · rintro ⟨ha, hxs⟩
      exact ⟨(), ha, ih.mpr hxs⟩

theorem forM_congr {xs : List α} {f g : α → Except ε Unit} (h : ∀ a ∈ xs, f a = g a) :
    xs.forM f = xs.forM g := by
  induction xs with
  | nil => rfl
  | cons a xs ih =>
    obtain ⟨ha, hxs⟩ := List.forall_mem_cons.mp h
    have ih := ih hxs
    simp only [List.forM_eq_forM, List.forM_cons] at ih ⊢
    rw [ha, ih]

theorem mapM_eq_ok_map {xs : List α} {f : α → Except ε β} {g : α → β}
    (h : ∀ a ∈ xs, f a = .ok (g a)) : xs.mapM f = .ok (xs.map g) := by
  induction xs with
  | nil => simp [pure, Except.pure]
  | cons a xs ih =>
    simp only [List.mapM_cons, bind_eq_ok, List.map_cons]
    refine ⟨g a, h a List.mem_cons_self, xs.map g, ?_, rfl⟩
    exact ih fun b hb => h b (List.mem_cons_of_mem a hb)

/-- Whatever came out of a list came from one of its elements. -/
theorem mem_of_mapM_eq_ok {xs : List α} {ys : List β} {f : α → Except ε β}
    (h : xs.mapM f = .ok ys) : ∀ y ∈ ys, ∃ x ∈ xs, f x = .ok y := by
  induction xs generalizing ys with
  | nil =>
    cases h
    exact fun y hy => absurd hy List.not_mem_nil
  | cons x xs ih =>
    simp only [List.mapM_cons, bind_eq_ok] at h
    obtain ⟨y, hx, rest, hr, h⟩ := h
    cases h
    rw [List.forall_mem_cons]
    refine ⟨⟨x, List.mem_cons_self, hx⟩, fun b hb => ?_⟩
    obtain ⟨a, ha, hab⟩ := ih hr b hb
    exact ⟨a, List.mem_cons_of_mem x ha, hab⟩

/-- What loses nothing of an element loses nothing of a list. -/
theorem eq_map_of_mapM_eq_ok {xs : List α} {ys : List β} {f : α → Except ε β} {g : β → α}
    (hf : ∀ a b, f a = .ok b → a = g b) (h : xs.mapM f = .ok ys) : xs = ys.map g := by
  induction xs generalizing ys with
  | nil =>
    cases h
    rfl
  | cons x xs ih =>
    simp only [List.mapM_cons, bind_eq_ok] at h
    obtain ⟨y, hx, rest, hr, h⟩ := h
    cases h
    rw [List.map_cons, ← hf x y hx, ← ih hr]

/-- If it fails, then for a reason of this kind. -/
def FailsBy (P : ε → Prop) (x : Except ε α) : Prop := ∀ e, x = .error e → P e

namespace FailsBy

variable {P : ε → Prop} {f : α → Except ε β}

theorem ok (a : α) : FailsBy P (.ok a) := fun _ h => by cases h

theorem error {e : ε} (h : P e) : FailsBy P (.error e : Except ε α) := fun _ he =>
  Except.error.inj he ▸ h

theorem bind (hx : FailsBy P x) (hf : ∀ a, FailsBy P (f a)) : FailsBy P (x >>= f) := by
  cases x with
  | error e => exact error (hx e rfl)
  | ok a => exact hf a

theorem map {f : α → β} (hx : FailsBy P x) : FailsBy P (x.map f) := by
  cases x with
  | error e => exact error (hx e rfl)
  | ok a => exact ok (f a)

theorem mapError {Q : ε' → Prop} {f : ε → ε'} (hx : FailsBy P x) (hf : ∀ e, P e → Q (f e)) :
    FailsBy Q (x.mapError f) := by
  cases x with
  | error e => exact error (hf e (hx e rfl))
  | ok a => exact ok a

theorem mapM {xs : List α} (hf : ∀ a, FailsBy P (f a)) : FailsBy P (xs.mapM f) := by
  induction xs with
  | nil => exact ok []
  | cons a xs ih =>
    rw [List.mapM_cons]
    exact (hf a).bind fun _ => ih.bind fun _ => ok _

theorem forM {xs : List α} {f : α → Except ε Unit} (hf : ∀ a, FailsBy P (f a)) :
    FailsBy P (xs.forM f) := by
  induction xs with
  | nil => exact ok ()
  | cons a xs ih => exact (hf a).bind fun _ => ih

end FailsBy

/-- Two outcomes that failed for one reason, or succeeded with what belongs together. -/
inductive Related (R : α → β → Prop) : Except ε α → Except ε β → Prop where
  | error (e : ε) : Related R (.error e) (.error e)
  | ok {a : α} {b : β} (h : R a b) : Related R (.ok a) (.ok b)

namespace Related

variable {α' β' : Type} {R : α → β → Prop} {S : α' → β' → Prop} {y : Except ε β}

theorem map {f : α → α'} {g : β → β'} (h : Related R x y) (hf : ∀ a b, R a b → S (f a) (g b)) :
    Related S (x.map f) (y.map g) := by
  cases h with
  | error e => exact .error e
  | ok h => exact .ok (hf _ _ h)

theorem map_left {S : α' → β → Prop} {f : α → α'} (h : Related R x y)
    (hf : ∀ a b, R a b → S (f a) b) : Related S (x.map f) y := by
  cases h with
  | error e => exact .error e
  | ok h => exact .ok (hf _ _ h)

end Related

theorem mapM_eq_ok_nil {xs : List α} {f : α → Except ε β} : xs.mapM f = .ok [] ↔ xs = [] := by
  cases xs with
  | nil => simp [pure, Except.pure]
  | cons a xs => simp [List.mapM_cons, bind_eq_ok, pure, Except.pure]

/-- Going through a list fails exactly if one of its elements does. -/
theorem mapM_fails_iff {xs : List α} {f : α → Except ε β} :
    (∃ e, xs.mapM f = .error e) ↔ ∃ a ∈ xs, ∃ e, f a = .error e := by
  induction xs with
  | nil => simp [pure, Except.pure]
  | cons a xs ih =>
    simp only [List.mapM_cons, List.mem_cons, exists_eq_or_imp, ← ih]
    cases f a with
    | error e => simp [bind, Except.bind]
    | ok b => cases xs.mapM f <;> simp [bind, Except.bind, pure, Except.pure]

section
variable {f : α → Option β} {xs : List α} {ys : List β}

/-- A list that was gone through has an outcome for each of its elements, and no others. -/
theorem mapM_eq_some (h : xs.mapM f = some ys) : xs.length = ys.length ∧
    (∀ y ∈ ys, ∃ x ∈ xs, f x = some y) ∧ ∀ x ∈ xs, ∃ y ∈ ys, f x = some y := by
  induction xs generalizing ys with
  | nil =>
    cases h
    simp
  | cons x xs ih =>
    simp only [List.mapM_cons, Option.bind_eq_bind, Option.bind_eq_some_iff] at h
    obtain ⟨y, hy, rest, hr, h⟩ := h
    cases h
    obtain ⟨hlen, hfrom, hto⟩ := ih hr
    refine ⟨by simp [hlen], ?_, ?_⟩
    · rw [List.forall_mem_cons]
      refine ⟨⟨x, List.mem_cons_self, hy⟩, fun b hb => ?_⟩
      obtain ⟨a, ha, hab⟩ := hfrom b hb
      exact ⟨a, List.mem_cons_of_mem x ha, hab⟩
    · rw [List.forall_mem_cons]
      refine ⟨⟨y, List.mem_cons_self, hy⟩, fun a ha => ?_⟩
      obtain ⟨b, hb, hab⟩ := hto a ha
      exact ⟨b, List.mem_cons_of_mem y hb, hab⟩

/-- What was written element by element is read element by element. -/
theorem mapM_map_of_reads {write : β → α} (h : ∀ y ∈ ys, f (write y) = some y) :
    (ys.map write).mapM f = some ys := by
  induction ys with
  | nil => rfl
  | cons y ys ih =>
    rw [List.map_cons, List.mapM_cons, h y List.mem_cons_self,
      ih fun b hb => h b (List.mem_cons_of_mem y hb)]
    rfl

end

end Conformance.Outcome
