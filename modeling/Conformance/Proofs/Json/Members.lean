import Conformance.Json.Value
import Conformance.Proofs.Pairs

/-! Finding members by name. -/
namespace Conformance.Json.Members

variable {members rest : Members} {key k : String} {value v : Json}

theorem mem_insert {m : String × Json} (h : m ∈ insert key value members) :
    m = (key, value) ∨ m ∈ members := by
  induction members with
  | nil => simpa [insert] using h
  | cons n rest ih =>
    unfold insert at h
    split at h
    · simpa using h
    · split at h
      · rcases List.mem_cons.mp h with h | h
        · exact Or.inl h
        · exact Or.inr (List.mem_cons_of_mem n h)
      · rcases List.mem_cons.mp h with h | h
        · exact Or.inr (h ▸ List.mem_cons_self)
        · exact (ih h).imp_right (List.mem_cons_of_mem n)

theorem mem_ofList {m : String × Json} (h : m ∈ ofList members) : m ∈ members := by
  suffices ∀ kept : Members,
      m ∈ members.foldl (fun kept n => kept.insert n.1 n.2) kept →
        m ∈ members ∨ m ∈ kept by
    exact (this [] h).resolve_right List.not_mem_nil
  clear h
  induction members with
  | nil => exact fun kept h => Or.inr h
  | cons n rest ih =>
    intro kept h
    rcases ih _ h with h | h
    · exact Or.inl (List.mem_cons_of_mem n h)
    · rcases mem_insert h with h | h
      · exact Or.inl (h ▸ List.mem_cons_self)
      · exact Or.inr h

theorem get?_cons (k : String) (v : Json) (rest : Members) (key : String) :
    get? ((k, v) :: rest) key = if key = k then some v else rest.get? key :=
  Pairs.lookup_cons k v rest key

theorem mem_of_get?_eq_some (h : members.get? key = some value) : (key, value) ∈ members := by
  obtain ⟨before, after, rfl, _⟩ := List.lookup_eq_some_iff.mp h
  simp

theorem contains_eq_isSome (members : Members) (key : String) :
    members.contains key = (members.get? key).isSome := by
  induction members with
  | nil => rfl
  | cons n rest ih =>
    obtain ⟨k, v⟩ := n
    rw [get?_cons]
    simp only [contains, List.any_cons] at ih ⊢
    by_cases hk : key = k
    · simp [hk]
    · simp [hk, ih, Ne.symm hk]

theorem Ordered.nodup (ho : Ordered members) : members.keys.Nodup := by
  refine List.Pairwise.imp ?_ ho
  rintro a b hlt rfl
  exact String.lt_irrefl a hlt

theorem get?_eq_none_of_not_mem (h : key ∉ members.keys) : members.get? key = none := by
  cases hg : members.get? key with
  | none => rfl
  | some v => exact absurd (List.mem_map_of_mem (mem_of_get?_eq_some hg)) h

theorem get?_ne_none_of_mem (h : (key, value) ∈ members) : members.get? key ≠ none := by
  intro hg
  simpa using List.lookup_eq_none_iff.mp hg (key, value) h

theorem Ordered.filter (ho : Ordered members) (p : String × Json → Bool) :
    Ordered (members.filter p) :=
  List.Pairwise.sublist (List.filter_sublist.map _) ho

/-- Leaving out the members of one name does not hide another. -/
theorem get?_filter_ne (h : key ≠ k) (members : Members) :
    get? (members.filter (·.1 ≠ k)) key = members.get? key := by
  induction members with
  | nil => rfl
  | cons m rest ih =>
    obtain ⟨n, v⟩ := m
    rw [get?_cons]
    by_cases hn : n = k
    · subst hn
      rw [if_neg h, ← ih]
      simp
    · rw [← ih, List.filter_cons_of_pos (by simpa using hn), get?_cons]

theorem get?_filter_self (k : String) (members : Members) :
    get? (members.filter (·.1 ≠ k)) k = none := by
  cases hg : get? (members.filter (·.1 ≠ k)) k with
  | none => rfl
  | some v => simpa using (List.mem_filter.mp (mem_of_get?_eq_some hg)).2

@[simp] theorem ordered_singleton (key : String) (value : Json) : Ordered [(key, value)] :=
  List.pairwise_singleton _ _

theorem ordered_pair {key key' : String} (h : key < key') (value value' : Json) :
    Ordered [(key, value), (key', value')] :=
  List.pairwise_pair.mpr h

end Conformance.Json.Members
