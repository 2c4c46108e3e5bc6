import Conformance.Proofs.Json.Sorted
import Mathlib.Data.List.Perm.Basic

/-! Putting members in order loses none of them, if each has a name of its own. -/
namespace Conformance.Json

namespace Members

variable {members members' : Members} {key : String} {value : Json}

/-- A member with a new name is one more. -/
theorem insert_perm (h : key ∉ members.keys) :
    (insert key value members).Perm ((key, value) :: members) := by
  induction members with
  | nil => exact .refl _
  | cons m rest ih =>
    obtain ⟨k, v⟩ := m
    obtain ⟨hne, hrest⟩ : ¬ key = k ∧ key ∉ keys rest := not_or.mp (mt List.mem_cons.mpr h)
    by_cases hlt : key < k
    · rw [insert, if_pos hlt]
    · rw [insert, if_neg hlt, if_neg hne]
      exact ((ih hrest).cons (k, v)).trans (.swap _ _ _)

theorem ofList_perm (h : members.keys.Nodup) : (ofList members).Perm members := by
  suffices ∀ kept : Members, keys (members ++ kept) |>.Nodup →
      (members.foldl (fun kept m => kept.insert m.1 m.2) kept).Perm (members ++ kept) by
    have hperm := this [] (by rwa [List.append_nil])
    rwa [List.append_nil] at hperm
  clear h
  induction members with
  | nil => exact fun kept _ => .refl _
  | cons m rest ih =>
    intro kept hn
    have hnew : m.1 ∉ keys kept := by
      intro hm
      have hmore : m.1 ∈ keys (rest ++ kept) := by
        rw [keys, List.map_append]
        exact List.mem_append_right _ hm
      exact (List.nodup_cons.mp hn).1 hmore
    have hperm : (rest ++ insert m.1 m.2 kept).Perm (m :: (rest ++ kept)) :=
      ((insert_perm hnew).append_left rest).trans List.perm_middle
    exact (ih _ ((hperm.map Prod.fst).nodup_iff.mpr hn)).trans hperm

theorem get?_eq_some_iff (h : members.keys.Nodup) :
    members.get? key = some value ↔ (key, value) ∈ members := by
  refine ⟨mem_of_get?_eq_some, fun hm => ?_⟩
  obtain ⟨before, after, rfl⟩ := List.append_of_mem hm
  refine List.lookup_eq_some_iff.mpr ⟨before, after, rfl, fun m hb => ?_⟩
  rw [keys, List.map_append, List.nodup_append] at h
  simpa using (h.2.2 m.1 (List.mem_map_of_mem hb) key (by simp)).symm

theorem get?_of_perm (h : members.keys.Nodup) (hp : members.Perm members') (key : String) :
    members.get? key = members'.get? key := by
  have h' : members'.keys.Nodup := (hp.map Prod.fst).nodup_iff.mp h
  refine Option.ext fun value => ?_
  rw [get?_eq_some_iff h, get?_eq_some_iff h', hp.mem_iff]

/-- Members that are in order stay as they are. -/
theorem ofList_of_ordered (h : members.Ordered) : ofList members = members := by
  refine (ofList_perm h.nodup).eq_of_pairwise ?_ (List.pairwise_map.mp (ordered_ofList members))
    (List.pairwise_map.mp h)
  intro m n _ _ hlt hgt
  exact absurd (String.lt_trans hlt hgt) (String.lt_irrefl _)

end Members

/-! ### Canonical form -/

variable {members : Members} {key : String}

theorem canonicalItems_eq_map (items : List Json) : canonicalItems items = items.map canonical := by
  induction items with
  | nil => rfl
  | cons v items ih => rw [canonicalItems, ih, List.map_cons]

theorem canonicalMembers_eq_map (members : Members) :
    canonicalMembers members = members.map fun m => (m.1, m.2.canonical) := by
  induction members with
  | nil => rfl
  | cons m members ih => rw [canonicalMembers, ih, List.map_cons]

theorem keys_canonicalMembers (members : Members) :
    Members.keys (canonicalMembers members) = members.keys := by
  rw [canonicalMembers_eq_map, Members.keys, List.map_map]
  rfl

theorem get?_canonicalMembers (members : Members) (key : String) :
    Members.get? (canonicalMembers members) key = (members.get? key).map canonical := by
  induction members with
  | nil => rfl
  | cons m members ih =>
    obtain ⟨k, v⟩ := m
    rw [canonicalMembers, Members.get?_cons, Members.get?_cons, ih]
    split <;> rfl

/-- The members of an object in canonical form. -/
def canonicalOf (members : Members) : Members :=
  Members.ofList (canonicalMembers members)

theorem canonical_object (members : Members) :
    (object members).canonical = .object (canonicalOf members) :=
  rfl

theorem nodup_canonicalOf (members : Members) : (canonicalOf members).keys.Nodup :=
  (Members.ordered_ofList _).nodup

theorem canonicalOf_perm (h : members.keys.Nodup) :
    (canonicalOf members).Perm (canonicalMembers members) :=
  Members.ofList_perm (by rwa [keys_canonicalMembers])

theorem get?_canonicalOf (h : members.keys.Nodup) (key : String) :
    (canonicalOf members).get? key = (members.get? key).map canonical := by
  rw [Members.get?_of_perm (nodup_canonicalOf members) (canonicalOf_perm h), get?_canonicalMembers]

/-- No name is lost, and none comes twice. -/
theorem keys_canonicalOf_perm (h : members.keys.Nodup) :
    (canonicalOf members).keys.Perm members.keys := by
  have hp := (canonicalOf_perm h).map Prod.fst
  rwa [← Members.keys, ← Members.keys, keys_canonicalMembers] at hp

mutual

/-- Every object within has its members in order. -/
theorem sorted_canonical : ∀ v : Json, Sorted v.canonical
  | .array items => .array (sorted_canonicalItems items)
  | .object members => sorted_ofMembers (sorted_canonicalMembers members)
  | .null => .null
  | .bool b => .bool b
  | .number n => .number n
  | .string text => .string text

theorem sorted_canonicalItems : ∀ items, ∀ v ∈ canonicalItems items, Sorted v
  | [] => List.forall_mem_nil _
  | item :: items =>
    List.forall_mem_cons.mpr ⟨sorted_canonical item, sorted_canonicalItems items⟩

theorem sorted_canonicalMembers : ∀ members, ∀ m ∈ canonicalMembers members, Sorted m.2
  | [] => List.forall_mem_nil _
  | (_, value) :: members =>
    List.forall_mem_cons.mpr ⟨sorted_canonical value, sorted_canonicalMembers members⟩

end

theorem canonical_of_sorted {v : Json} (h : Sorted v) : v.canonical = v := by
  induction h with
  | null => rfl
  | bool b => rfl
  | number n => rfl
  | string text => rfl
  | @array items h ih =>
    have hitems : items.map canonical = items := (List.map_congr_left ih).trans (List.map_id items)
    rw [canonical, canonicalItems_eq_map, hitems]
  | @object members ho h ih =>
    have hmembers : canonicalMembers members = members := by
      rw [canonicalMembers_eq_map]
      refine (List.map_congr_left fun m hm => ?_).trans (List.map_id members)
      rw [ih m hm]
      rfl
    rw [canonical, hmembers, ofMembers, Members.ofList_of_ordered ho]

end Conformance.Json
