import Conformance.Proofs.Json.Sorted

/-! How many brackets may be open at once decides whether a text is read, never what is read. -/
namespace Conformance.Json

open Text (cutAfter)

variable {α β : Type} {limit more : Nat} {text : String} {v : Json}

/-- Two readings that agree, unless the first one ran out of brackets. -/
def Allows (x y : Except Stop α) : Prop :=
  x = y ∨ ∃ stop, x = .error stop ∧ stop.fault = .tooDeep

namespace Allows

variable {x y : Except Stop α}

theorem refl (x : Except Stop α) : Allows x x := Or.inl rfl

theorem stopBefore_tooDeep (unread : List Char) (y : Except Stop α) :
    Allows (stopBefore .tooDeep unread) y :=
  Or.inr ⟨_, rfl, rfl⟩

theorem bind {f g : α → Except Stop β} (h : Allows x y) (hf : ∀ a, Allows (f a) (g a)) :
    Allows (x >>= f) (y >>= g) := by
  obtain rfl | ⟨stop, rfl, hs⟩ := h
  · cases x with
    | error stop => exact refl _
    | ok a => exact hf a
  · exact Or.inr ⟨stop, rfl, hs⟩

theorem eq_of_ok {a : α} (h : Allows (.ok a) y) : y = .ok a := by
  obtain rfl | ⟨_, hs, _⟩ := h
  · rfl
  · cases hs

end Allows

section Brackets

variable {item item' : (s : List Char) → Reading Json s}

theorem moreItems_allows (hi : ∀ s, Allows (item s) (item' s)) (s : List Char) :
    Allows (moreItems item s) (moreItems item' s) := by
  fun_induction moreItems item s with
  | case1 s hc =>
    rw [moreItems, hc]
    exact .refl _
  | case2 s rest hc =>
    rw [moreItems, hc]
    exact .refl _
  | case3 s rest hc _ ih =>
    rw [moreItems, hc]
    exact .bind (.refl _) fun start => .bind (hi _) fun r => .bind (ih _ _) fun _ => .refl _
  | case4 s c rest hc hn hn' =>
    rw [moreItems, hc]
    simp only [hn, hn', if_false]
    exact .refl _

theorem items_allows (hi : ∀ s, Allows (item s) (item' s)) (s : List Char) :
    Allows (items item s) (items item' s) := by
  unfold items
  split
  · exact .refl _
  · split
    · exact .refl _
    · exact .bind (hi _) fun r => .bind (moreItems_allows hi _) fun _ => .refl _

theorem pair_allows (hi : ∀ s, Allows (item s) (item' s)) (s : List Char) :
    Allows (pair item s) (pair item' s) := by
  unfold pair
  split
  · exact .refl _
  · split
    · refine .bind (.refl _) fun r => ?_
      dsimp only
      split
      · exact .refl _
      · split
        · exact .bind (hi _) fun _ => .refl _
        · exact .refl _
    · exact .refl _

theorem morePairs_allows (hi : ∀ s, Allows (item s) (item' s)) (s : List Char) :
    Allows (morePairs item s) (morePairs item' s) := by
  fun_induction morePairs item s with
  | case1 s hc =>
    rw [morePairs, hc]
    exact .refl _
  | case2 s rest hc =>
    rw [morePairs, hc]
    exact .refl _
  | case3 s rest hc _ ih =>
    rw [morePairs, hc]
    exact .bind (.refl _) fun start => .bind (pair_allows hi _) fun r =>
      .bind (ih _ _) fun _ => .refl _
  | case4 s c rest hc hn hn' =>
    rw [morePairs, hc]
    simp only [hn, hn', if_false]
    exact .refl _

theorem pairs_allows (hi : ∀ s, Allows (item s) (item' s)) (s : List Char) :
    Allows (pairs item s) (pairs item' s) := by
  unfold pairs
  split
  · exact .refl _
  · split
    · exact .refl _
    · exact .bind (pair_allows hi _) fun r => .bind (morePairs_allows hi _) fun _ => .refl _

/-- Only a bracket asks whether one more may be opened. -/
theorem valueIn_allows {inner inner' : Option ((s : List Char) → Reading Json s)}
    (hi : ∀ item ∈ inner, ∃ item' ∈ inner', ∀ s, Allows (item s) (item' s)) (s : List Char) :
    Allows (valueIn inner s) (valueIn inner' s) := by
  cases s with
  | nil => exact .refl _
  | cons c rest =>
    cases inner with
    | none =>
      simp only [valueIn]
      split
      · exact .refl _
      · split
        · exact .stopBefore_tooDeep _ _
        · split
          · exact .stopBefore_tooDeep _ _
          · exact .refl _
    | some item =>
      obtain ⟨item', rfl, ha⟩ := hi item rfl
      simp only [valueIn]
      split
      · exact .refl _
      · split
        · exact .bind (items_allows ha rest) fun _ => .refl _
        · split
          · exact .bind (pairs_allows ha rest) fun _ => .refl _
          · exact .refl _

end Brackets

theorem valueWithin_allows (h : limit ≤ more) (s : List Char) :
    Allows (valueWithin limit s) (valueWithin more s) := by
  -- both limits go down by one with each bracket, so the smaller one runs out first
  induction limit generalizing more s with
  | zero =>
    cases more with
    | zero => exact .refl _
    | succ more => exact valueIn_allows (by simp) s
  | succ limit ih =>
    obtain ⟨more, rfl⟩ : ∃ k, more = k + 1 := ⟨more - 1, by omega⟩
    refine valueIn_allows ?_ s
    rintro item ⟨⟩
    exact ⟨_, rfl, fun s => ih (by omega) s⟩

/-- No more than `limit` brackets stand around anything in a value, and its numbers are of one
kind. -/
inductive Nested (kind : Number → Prop) : Nat → Json → Prop where
  | null {limit : Nat} : Nested kind limit .null
  | bool {limit : Nat} (b : Bool) : Nested kind limit (.bool b)
  | number {limit : Nat} {n : Number} (h : kind n) : Nested kind limit (.number n)
  | string {limit : Nat} (text : String) : Nested kind limit (.string text)
  | array {limit : Nat} {items : List Json} (h : ∀ v ∈ items, Nested kind limit v) :
    Nested kind (limit + 1) (.array items)
  | object {limit : Nat} {members : Members} (h : ∀ m ∈ members, Nested kind limit m.2) :
    Nested kind (limit + 1) (.object members)

namespace Nested

attribute [simp] null bool string

variable {kind : Number → Prop}

@[simp] theorem array_iff {items : List Json} :
    Nested kind (limit + 1) (.array items) ↔ ∀ v ∈ items, Nested kind limit v :=
  ⟨fun | .array h => h, .array⟩

@[simp] theorem object_iff {members : Members} :
    Nested kind (limit + 1) (.object members) ↔ ∀ m ∈ members, Nested kind limit m.2 :=
  ⟨fun | .object h => h, .object⟩

end Nested

/-- Numbers of any kind. -/
def AnyNumber (_ : Number) : Prop := True

/-- A bracket is one more around what was read in it. -/
theorem nested_of_built {inner : Option ((s : List Char) → Reading Json s)}
    (hi : ∀ item ∈ inner, ∃ k, limit = k + 1 ∧ ∀ v, ReadBy item v → Nested AnyNumber k v)
    (h : Built inner v) : Nested AnyNumber limit v := by
  cases h with
  | null => exact .null
  | bool b => exact .bool b
  | number n => exact .number trivial
  | string text => exact .string text
  | array hs hv =>
    obtain ⟨k, rfl, hk⟩ := hi _ hs
    exact .array fun v hm => hk v (hv v hm)
  | object hs hv =>
    obtain ⟨k, rfl, hk⟩ := hi _ hs
    exact .object fun m hm => hk m.2 (hv m (Members.mem_ofList hm))

theorem nested_valueWithin {s : List Char} {left : Text.Rest s}
    (h : valueWithin limit s = .ok (v, left)) : Nested AnyNumber limit v := by
  induction limit generalizing s v with
  | zero => exact nested_of_built (by simp) (built_valueIn h)
  | succ limit ih =>
    refine nested_of_built ?_ (built_valueIn h)
    rintro item ⟨⟩
    exact ⟨limit, rfl, fun v ⟨s, left, hv⟩ => ih hv⟩

/-- A text of this value, with no more than `limit` brackets open at once. -/
def Spells (limit : Nat) (text : String) (v : Json) : Prop :=
  ∃ left, valueWithin limit (skipSpace text.toList).val = .ok (v, left) ∧
    (skipSpace left.val).val = []

theorem Spells.mono (h : Spells limit text v) (hl : limit ≤ more) : Spells more text v := by
  obtain ⟨left, hv, hs⟩ := h
  have ha := valueWithin_allows hl (skipSpace text.toList).val
  rw [hv] at ha
  exact ⟨left, ha.eq_of_ok, hs⟩

theorem read_eq_ok_iff : read text = .ok v ↔ Spells maxDepth text v := by
  simp only [read, Outcome.mapError_eq_ok, readDocument, Outcome.bind_eq_ok]
  constructor
  · rintro ⟨⟨w, left⟩, hw, h⟩
    dsimp only at h
    split at h
    · rename_i hs
      cases h
      exact ⟨left, hw, hs⟩
    · cases h
  · rintro ⟨left, hv, hs⟩
    exact ⟨(v, left), hv, by simp [hs, pure, Except.pure]⟩

/-- A text that is read at some depth is read the same within the limit, or goes beyond it. -/
theorem Spells.read_or_tooDeep (h : Spells limit text v) :
    read text = .ok v ∨ ∃ cause, read text = .error cause ∧ cause.fault = .tooDeep := by
  rcases Nat.le_total limit maxDepth with hl | hl
  · exact Or.inl (read_eq_ok_iff.mpr (h.mono hl))
  · obtain ⟨left, hv, hs⟩ := h
    rcases valueWithin_allows hl (skipSpace text.toList).val with ha | ⟨stop, hstop, hf⟩
    · exact Or.inl (read_eq_ok_iff.mpr ⟨left, ha.trans hv, hs⟩)
    · refine Or.inr ⟨stop.locateIn text.toList, ?_, hf⟩
      simp only [read, readDocument, hstop]
      rfl

theorem Spells.nested (h : Spells limit text v) : Nested AnyNumber limit v :=
  h.elim fun _ ⟨hv, _⟩ => nested_valueWithin hv

end Conformance.Json
