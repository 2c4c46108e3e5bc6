/-! Lists of keys with values, in which the first value of a key counts. -/
namespace Conformance.Pairs

variable {κ α : Type} [DecidableEq κ] {pairs : List (κ × α)} {key k : κ} {value : α}

theorem lookup_cons [BEq κ] [LawfulBEq κ] (k : κ) (value : α) (rest : List (κ × α))
    (key : κ) :
    ((k, value) :: rest).lookup key = if key = k then some value else rest.lookup key := by
  rw [List.lookup_cons]
  by_cases hk : key = k
  · rw [if_pos hk, beq_iff_eq.mpr hk]
  · rw [if_neg hk, beq_eq_false_iff_ne.mpr hk]

/-- Gives a key a value, in the place of the one it had or else at the end. -/
def assign (key : κ) (value : α) : List (κ × α) → List (κ × α)
  | [] => [(key, value)]
  | (k, v) :: rest => if k = key then (k, value) :: rest else (k, v) :: assign key value rest

theorem lookup_assign [BEq κ] [LawfulBEq κ] (key : κ) (value : α) (pairs : List (κ × α))
    (k : κ) :
    (assign key value pairs).lookup k = if k = key then some value else pairs.lookup k := by
  induction pairs with
  | nil => rw [assign, lookup_cons]
  | cons p rest ih =>
    obtain ⟨k', v⟩ := p
    rw [assign]
    by_cases hk : k' = key
    · rw [if_pos hk, lookup_cons, lookup_cons, hk]
      split <;> rfl
    · rw [if_neg hk, lookup_cons, lookup_cons, ih]
      by_cases he : k = k'
      · rw [if_pos he, if_pos he, if_neg (he ▸ hk)]
      · rw [if_neg he, if_neg he]

theorem mem_keys_assign :
    k ∈ (assign key value pairs).map Prod.fst ↔ k = key ∨ k ∈ pairs.map Prod.fst := by
  induction pairs with
  | nil => simp [assign]
  | cons p rest ih =>
    obtain ⟨k', v⟩ := p
    rw [assign]
    by_cases hk : k' = key
    · simp [hk]
    · rw [if_neg hk, List.map_cons, List.mem_cons, ih, List.map_cons, List.mem_cons]
      exact or_left_comm

theorem length_assign_le (key : κ) (value : α) (pairs : List (κ × α)) :
    (assign key value pairs).length ≤ pairs.length + 1 := by
  induction pairs with
  | nil => exact Nat.le_refl _
  | cons p rest ih =>
    rw [assign]
    split
    · exact Nat.le_succ _
    · exact Nat.succ_le_succ ih

theorem nodup_assign (h : (pairs.map Prod.fst).Nodup) :
    ((assign key value pairs).map Prod.fst).Nodup := by
  induction pairs with
  | nil => exact List.nodup_cons.mpr ⟨List.not_mem_nil, List.nodup_nil⟩
  | cons p rest ih =>
    obtain ⟨k', v⟩ := p
    obtain ⟨hk, hrest⟩ := List.nodup_cons.mp h
    rw [assign]
    by_cases he : k' = key
    · rw [if_pos he]
      exact List.nodup_cons.mpr ⟨hk, hrest⟩
    · rw [if_neg he]
      refine List.nodup_cons.mpr ⟨?_, ih hrest⟩
      rw [mem_keys_assign]
      exact not_or.mpr ⟨he, hk⟩

end Conformance.Pairs
