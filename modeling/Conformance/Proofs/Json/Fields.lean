import Conformance.Json.Decode
import Conformance.Proofs.Json.Sorted

/-! What the fields of a record are read from when each name occurs once. -/
namespace Conformance.Json.Record

open Outcome

variable {α β : Type} {members : Members} {key : String} {item : Decoder α}

theorem ofMembers_eq_ok {r : Record α} {a : α} : r.ofMembers members = .ok a ↔
    (∀ m ∈ members, r.check m.1 m.2 = .ok ()) ∧ r.gather members = .ok a := by
  simp only [ofMembers, bind_eq_ok]
  constructor
  · rintro ⟨⟨⟩, hc, hg⟩
    exact ⟨forM_eq_ok.mp hc, hg⟩
  · rintro ⟨hc, hg⟩
    exact ⟨(), forM_eq_ok.mpr hc, hg⟩

/-- Checking a field among members of which at most one has its name. -/
theorem forM_check_fieldWith (hn : members.keys.Nodup) (inObject inArray : Option α) :
    (members.forM fun (k, v) => (fieldWith key item inObject inArray).check k v) =
      ((members.get? key).elim (.ok ()) fun v => (item v).map fun _ => ()) := by
  induction members with
  | nil => rfl
  | cons m rest ih =>
    obtain ⟨k, v⟩ := m
    obtain ⟨hk, hrest⟩ : k ∉ Members.keys rest ∧ (Members.keys rest).Nodup := List.nodup_cons.mp hn
    have hr := ih hrest
    rw [List.forM_eq_forM] at hr ⊢
    rw [Members.get?_cons, List.forM_cons, hr]
    by_cases he : key = k
    · subst he
      cases hv : item v <;>
        simp [fieldWith, Members.get?_eq_none_of_not_mem hk, hv, Except.map, bind, Except.bind]
    · simp [fieldWith, he, Ne.symm he, bind, Except.bind]

/-- A single field is read from its own member alone. -/
theorem ofMembers_fieldWith (hn : members.keys.Nodup) (inObject inArray : Option α) :
    (fieldWith key item inObject inArray).ofMembers members =
      (fieldWith key item inObject inArray).gather members := by
  unfold ofMembers
  rw [forM_check_fieldWith hn]
  cases hg : members.get? key with
  | none => rfl
  | some v => cases hv : item v <;> simp [fieldWith, hg, hv, Except.map, bind, Except.bind]

theorem ofMembers_required_of_nodup (hn : members.keys.Nodup) {v : Json}
    (hv : members.get? key = some v) : (required key item).ofMembers members = item v := by
  simp only [required, ofMembers_fieldWith hn]
  simp [fieldWith, hv]

theorem ofMembers_required (ho : members.Ordered) {v : Json} (hv : members.get? key = some v) :
    (required key item).ofMembers members = item v :=
  ofMembers_required_of_nodup ho.nodup hv

theorem ofMembers_optional (hn : members.keys.Nodup) : (optional key item).ofMembers members =
    (members.get? key).elim (.ok none) (Decoder.nullable item) := by
  simp only [optional, ofMembers_fieldWith hn]
  cases hv : members.get? key <;> simp [fieldWith, hv]

theorem ofMembers_defaulted (ho : members.Ordered) (default : α) :
    (defaulted key item default).ofMembers members =
      (members.get? key).elim (.ok default) item := by
  simp only [defaulted, ofMembers_fieldWith ho.nodup]
  cases hv : members.get? key <;> simp [fieldWith, hv]

theorem ofMembers_map (r : Record α) (f : α → β) :
    (r.map f).ofMembers members = (r.ofMembers members).map f := by
  simp only [ofMembers, map]
  cases members.forM fun (key, v) => r.check key v <;> rfl

theorem ofMembers_and {r : Record α} {s : Record β} {a : α} {b : β} :
    (r.and s).ofMembers members = .ok (a, b) ↔
      r.ofMembers members = .ok a ∧ s.ofMembers members = .ok b := by
  simp only [ofMembers_eq_ok, and, bind_eq_ok]
  constructor
  · rintro ⟨hc, _, ha, _, hb, hab⟩
    cases hab
    refine ⟨⟨fun m hm => ?_, ha⟩, ⟨fun m hm => ?_, hb⟩⟩
    · obtain ⟨⟨⟩, hr, _⟩ := hc m hm
      exact hr
    · obtain ⟨⟨⟩, _, hs⟩ := hc m hm
      exact hs
  · rintro ⟨⟨hr, ha⟩, ⟨hs, hb⟩⟩
    exact ⟨fun m hm => ⟨(), hr m hm, hs m hm⟩, a, ha, b, hb, rfl⟩

/-- After fields that are all right, only those of the other record can be wrong. -/
theorem ofMembers_and_of_ok {r : Record α} {s : Record β} {a : α}
    (hr : r.ofMembers members = .ok a) :
    (r.and s).ofMembers members = (s.ofMembers members).map (Prod.mk a) := by
  obtain ⟨hc, hg⟩ := ofMembers_eq_ok.mp hr
  have hboth : (members.forM fun (k, v) => (r.and s).check k v) =
      members.forM fun (k, v) => s.check k v := by
    refine forM_congr fun m hm => ?_
    simp only [and, hc m hm]
    rfl
  simp only [ofMembers, hboth]
  simp only [and, hg]
  cases members.forM fun (k, v) => s.check k v with
  | error cause => rfl
  | ok u => cases s.gather members <;> rfl

end Conformance.Json.Record
