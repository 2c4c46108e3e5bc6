import Conformance.Proofs.Json.Built

/-! Whatever is read has each name once in every object, however deep it lies. -/
namespace Conformance.Json

/-- In every object within, members stand in the order of their names. -/
inductive Sorted : Json → Prop where
  | null : Sorted .null
  | bool (b : Bool) : Sorted (.bool b)
  | number (n : Number) : Sorted (.number n)
  | string (s : String) : Sorted (.string s)
  | array {items : List Json} (h : ∀ v ∈ items, Sorted v) : Sorted (.array items)
  | object {members : Members} (ho : members.Ordered) (h : ∀ m ∈ members, Sorted m.2) :
    Sorted (.object members)

namespace Sorted

attribute [simp] null bool number string

@[simp] theorem array_iff {items : List Json} : Sorted (.array items) ↔ ∀ v ∈ items, Sorted v :=
  ⟨fun | .array h => h, .array⟩

@[simp] theorem object_iff {members : Members} :
    Sorted (.object members) ↔ members.Ordered ∧ ∀ m ∈ members, Sorted m.2 :=
  ⟨fun | .object ho h => ⟨ho, h⟩, fun h => .object h.1 h.2⟩

end Sorted

theorem Sorted.items {items : List Json} (h : Sorted (.array items)) : ∀ v ∈ items, Sorted v := by
  cases h
  assumption

theorem Sorted.ordered {members : Members} (h : Sorted (.object members)) : members.Ordered := by
  cases h
  assumption

theorem Sorted.get? {members : Members} (h : Sorted (.object members)) {key : String} {v : Json}
    (hv : members.get? key = some v) : Sorted v := by
  cases h with
  | object _ h => exact h _ (Members.mem_of_get?_eq_some hv)

theorem sorted_ofMembers {members : List (String × Json)} (h : ∀ m ∈ members, Sorted m.2) :
    Sorted (ofMembers members) :=
  .object (Members.ordered_ofList members) fun m hm => h m (Members.mem_ofList hm)

/-- A value is sorted if those within its brackets are. -/
theorem sorted_of_built {inner : Option ((s : List Char) → Reading Json s)} {v : Json}
    (hi : ∀ item ∈ inner, ∀ v, ReadBy item v → Sorted v) (h : Built inner v) : Sorted v := by
  cases h with
  | null => exact .null
  | bool b => exact .bool b
  | number n => exact .number n
  | string text => exact .string text
  | array hs hv => exact .array fun v hm => hi _ hs v (hv v hm)
  | object hs hv => exact sorted_ofMembers fun m hm => hi _ hs m.2 (hv m hm)

theorem sorted_valueWithin {depth : Nat} {s : List Char} {v : Json} {left : Text.Rest s}
    (h : valueWithin depth s = .ok (v, left)) : Sorted v := by
  induction depth generalizing s v with
  | zero => exact sorted_of_built (by simp) (built_valueIn h)
  | succ depth ih =>
    refine sorted_of_built ?_ (built_valueIn h)
    rintro item ⟨⟩ v ⟨s, left, hv⟩
    exact ih hv

theorem sorted_read {text : String} {v : Json} (h : read text = .ok v) : Sorted v := by
  simp only [read, Outcome.mapError_eq_ok, readDocument, Outcome.bind_eq_ok] at h
  obtain ⟨⟨w, _⟩, hw, h⟩ := h
  split at h
  · cases h
    exact sorted_valueWithin hw
  · simp [stopBefore] at h

end Conformance.Json
