import Conformance.Json.Reader
import Conformance.Proofs.Json.Members
import Conformance.Proofs.Outcome

/-! What a reader puts together: a scalar, or brackets around values that it read before. -/
namespace Conformance.Json

open Outcome
open Text (Rest cutAfter)

section Reading

variable {P : Json → Prop} {item : (s : List Char) → Reading Json s} {s : List Char}

/-- The elements of a list are values that the reader of elements has read. -/
theorem moreItems_all (hi : ∀ s v left, item s = .ok (v, left) → P v) {vs : List Json}
    {left : Rest s} (h : moreItems item s = .ok (vs, left)) : ∀ v ∈ vs, P v := by
  fun_induction moreItems item s generalizing vs with
  | case1 => simp [stopAt] at h
  | case2 =>
    simp only [Except.ok.injEq, Prod.mk.injEq] at h
    simp [← h.1]
  | case3 s rest _ _ ih =>
    simp only [bind_eq_ok] at h
    obtain ⟨start, _, ⟨v, _⟩, hv, ⟨more, _⟩, hmore, h⟩ := h
    cases h
    intro w hw
    rcases List.mem_cons.mp hw with rfl | hw
    · exact hi _ _ _ hv
    · exact ih _ _ hmore w hw
  | case4 => simp [stopBefore] at h

theorem items_all (hi : ∀ s v left, item s = .ok (v, left) → P v) {vs : List Json}
    {left : Rest s} (h : items item s = .ok (vs, left)) : ∀ v ∈ vs, P v := by
  unfold items at h
  split at h
  · simp [stopAt] at h
  · split at h
    · simp only [Except.ok.injEq, Prod.mk.injEq] at h
      simp [← h.1]
    · simp only [bind_eq_ok] at h
      obtain ⟨⟨v, _⟩, hv, ⟨more, _⟩, hmore, h⟩ := h
      cases h
      intro w hw
      rcases List.mem_cons.mp hw with rfl | hw
      · exact hi _ _ _ hv
      · exact moreItems_all hi hmore w hw

theorem pair_all (hi : ∀ s v left, item s = .ok (v, left) → P v) {m : String × Json}
    {left : Rest s} (h : pair item s = .ok (m, left)) : P m.2 := by
  unfold pair at h
  split at h
  · simp [stopAt] at h
  · split at h
    · simp only [bind_eq_ok] at h
      obtain ⟨⟨key, _⟩, _, h⟩ := h
      split at h
      · simp [stopAt] at h
      · split at h
        · simp only [bind_eq_ok] at h
          obtain ⟨⟨v, _⟩, hv, h⟩ := h
          cases h
          exact hi _ _ _ hv
        · simp [stopBefore] at h
    · simp [stopBefore] at h

theorem morePairs_all (hi : ∀ s v left, item s = .ok (v, left) → P v)
    {ms : List (String × Json)} {left : Rest s} (h : morePairs item s = .ok (ms, left)) :
    ∀ m ∈ ms, P m.2 := by
  fun_induction morePairs item s generalizing ms with
  | case1 => simp [stopAt] at h
  | case2 =>
    simp only [Except.ok.injEq, Prod.mk.injEq] at h
    simp [← h.1]
  | case3 s rest _ _ ih =>
    simp only [bind_eq_ok] at h
    obtain ⟨start, _, ⟨m, _⟩, hm, ⟨more, _⟩, hmore, h⟩ := h
    cases h
    intro n hn
    rcases List.mem_cons.mp hn with rfl | hn
    · exact pair_all hi hm
    · exact ih _ _ hmore n hn
  | case4 => simp [stopBefore] at h

theorem pairs_all (hi : ∀ s v left, item s = .ok (v, left) → P v) {ms : List (String × Json)}
    {left : Rest s} (h : pairs item s = .ok (ms, left)) : ∀ m ∈ ms, P m.2 := by
  unfold pairs at h
  split at h
  · simp [stopAt] at h
  · split at h
    · simp only [Except.ok.injEq, Prod.mk.injEq] at h
      simp [← h.1]
    · simp only [bind_eq_ok] at h
      obtain ⟨⟨m, _⟩, hm, ⟨more, _⟩, hmore, h⟩ := h
      cases h
      intro n hn
      rcases List.mem_cons.mp hn with rfl | hn
      · exact pair_all hi hm
      · exact morePairs_all hi hmore n hn

end Reading

/-- A value that was read somewhere. -/
def ReadBy (item : (s : List Char) → Reading Json s) (v : Json) : Prop :=
  ∃ s left, item s = .ok (v, left)

/-- A scalar, or brackets in which `inner` has read everything. -/
inductive Built (inner : Option ((s : List Char) → Reading Json s)) : Json → Prop where
  | null : Built inner .null
  | bool (b : Bool) : Built inner (.bool b)
  | number (n : Number) : Built inner (.number n)
  | string (text : String) : Built inner (.string text)
  | array {item : (s : List Char) → Reading Json s} {items : List Json} (hi : inner = some item)
    (h : ∀ v ∈ items, ReadBy item v) : Built inner (.array items)
  | object {item : (s : List Char) → Reading Json s} {members : Members} (hi : inner = some item)
    (h : ∀ m ∈ members, ReadBy item m.2) : Built inner (ofMembers members)

theorem word_eq_ok {v w : Json} {letters s : List Char} {left : Text.Remainder s}
    (h : word v letters s = .ok (w, left)) : w = v := by
  induction letters generalizing s with
  | nil =>
    simp only [word, Except.ok.injEq, Prod.mk.injEq] at h
    exact h.1.symm
  | cons letter letters ih =>
    cases s with
    | nil => simp [word, stopAt] at h
    | cons c s =>
      unfold word at h
      split at h
      · simp only [bind_eq_ok] at h
        obtain ⟨⟨u, _⟩, hu, h⟩ := h
        cases h
        exact ih hu
      · simp [stopBefore] at h

variable {inner : Option ((s : List Char) → Reading Json s)} {s : List Char} {v : Json}

theorem built_named {c : Char} {left : Text.Remainder s} (h : named c s = .ok (v, left)) :
    Built inner v := by
  unfold named at h
  split at h
  · exact word_eq_ok h ▸ .null
  · split at h
    · exact word_eq_ok h ▸ .bool true
    · split at h
      · exact word_eq_ok h ▸ .bool false
      · simp [stopBefore] at h

theorem built_valueIn {left : Rest s} (h : valueIn inner s = .ok (v, left)) : Built inner v := by
  unfold valueIn at h
  split at h
  · simp [stopAt] at h
  · split at h
    · simp only [bind_eq_ok] at h
      obtain ⟨_, _, h⟩ := h
      cases h
      exact .string _
    · split at h
      · split at h
        · simp [stopBefore] at h
        · simp only [bind_eq_ok] at h
          obtain ⟨⟨vs, _⟩, hvs, h⟩ := h
          cases h
          exact .array rfl (items_all (fun s v left hv => ⟨s, left, hv⟩) hvs)
      · split at h
        · split at h
          · simp [stopBefore] at h
          · simp only [bind_eq_ok] at h
            obtain ⟨⟨ms, _⟩, hms, h⟩ := h
            cases h
            exact .object rfl (pairs_all (fun s v left hv => ⟨s, left, hv⟩) hms)
        · split at h
          · simp only [bind_eq_ok] at h
            obtain ⟨_, _, h⟩ := h
            cases h
            exact .number _
          · split at h
            · simp only [bind_eq_ok] at h
              obtain ⟨_, _, h⟩ := h
              cases h
              exact .number _
            · simp only [bind_eq_ok] at h
              obtain ⟨_, hv, h⟩ := h
              cases h
              exact built_named hv

end Conformance.Json
