import Conformance.Json.Decode
import Conformance.Proofs.Json.Members
import Conformance.Proofs.Outcome

/-! Where the parts of what was decoded come from: they stand somewhere in the value, however its
records are written. -/
namespace Conformance.Json

open Outcome

/-- A value stands somewhere in another one. -/
inductive Within (w : Json) : Json → Prop where
  | here : Within w w
  | item {items : List Json} {v : Json} (hv : v ∈ items) (h : Within w v) :
    Within w (.array items)
  | member {members : Members} {m : String × Json} (hm : m ∈ members) (h : Within w m.2) :
    Within w (.object members)

variable {α β : Type}

/-- What a decoder finds has these parts, and they stand in the value that was decoded. -/
def Decoder.Draws (item : Decoder α) (parts : α → List Json) : Prop :=
  ∀ v a, item v = .ok a → ∀ w ∈ parts a, Within w v

/-- The same of the fields of a record, read by their names or from the front of a list, of which
the rest is left to others. -/
structure Record.Draws (r : Record α) (parts : α → List Json) : Prop where
  gathered : ∀ members a, r.gather members = .ok a →
    ∀ w ∈ parts a, ∃ m ∈ members, Within w m.2
  listed : ∀ expected taken items a rest, r.elements expected taken items = .ok (a, rest) →
    rest ⊆ items ∧ ∀ w ∈ parts a, ∃ v ∈ items, Within w v

namespace Decoder

variable {item : Decoder α} {parts parts' : α → List Json}

theorem Draws.mono (h : item.Draws parts) (hp : ∀ a, parts' a ⊆ parts a) : item.Draws parts' :=
  fun v a hv w hw => h v a hv w (hp a hw)

theorem draws_string : Decoder.string.Draws fun s => [.string s] := by
  intro v s hv w hw
  cases v with
  | string t =>
    cases hv
    obtain rfl := List.mem_singleton.mp hw
    exact .here
  | _ => cases hv

theorem draws_list (h : item.Draws parts) : (Decoder.list item).Draws (·.flatMap parts) := by
  intro v as hv w hw
  cases v with
  | array items =>
    obtain ⟨a, ha, hw⟩ := List.mem_flatMap.mp hw
    obtain ⟨u, hu, hua⟩ := mem_of_mapM_eq_ok hv a ha
    exact .item hu (h u a hua w hw)
  | _ => cases hv

theorem draws_nullable (h : item.Draws parts) :
    (Decoder.nullable item).Draws (·.toList.flatMap parts) := by
  intro v o hv w hw
  by_cases hn : v = .null
  · subst hn
    cases hv
    cases hw
  · have hm : (item v).map some = .ok o := by
      cases v with
      | null => exact absurd rfl hn
      | _ => exact hv
    obtain ⟨a, ha, rfl⟩ := map_eq_ok.mp hm
    exact h v a ha w (by simpa using hw)

end Decoder

namespace Record

variable {r : Record α} {s : Record β} {parts : α → List Json} {parts' : β → List Json}
  {item : Decoder α} {name : String}

/-- A field draws what its decoder does, if there is nothing to a value that it takes unasked. -/
theorem draws_fieldWith {inObject inArray : Option α} (h : item.Draws parts)
    (ho : ∀ d ∈ inObject, parts d = []) (ha : ∀ d ∈ inArray, parts d = []) :
    (fieldWith name item inObject inArray).Draws parts where
  gathered members a hg w hw := by
    simp only [fieldWith] at hg
    split at hg
    · rename_i v hv
      exact ⟨_, Members.mem_of_get?_eq_some hv, h _ a hg w hw⟩
    · cases hg
      rw [ho a rfl] at hw
      cases hw
    · cases hg
  listed expected taken items a rest he := by
    cases items with
    | cons v more =>
      obtain ⟨b, hb, he⟩ := bind_eq_ok.mp he
      cases he
      exact ⟨List.subset_cons_self v rest, fun w hw => ⟨v, List.mem_cons_self, h v a hb w hw⟩⟩
    | nil =>
      cases inArray with
      | none => cases he
      | some default =>
        cases he
        refine ⟨List.Subset.refl _, fun w hw => ?_⟩
        rw [ha a rfl] at hw
        cases hw

theorem draws_required (h : item.Draws parts) : (required name item).Draws parts :=
  draws_fieldWith h nofun nofun

theorem draws_defaulted {default : α} (h : item.Draws parts) (hd : parts default = []) :
    (defaulted name item default).Draws parts := by
  have hp : ∀ d ∈ some default, parts d = [] := by
    rintro d ⟨⟩
    exact hd
  exact draws_fieldWith h hp hp

/-- A field that may be null or left out. -/
theorem draws_defaulted_none (h : item.Draws parts) :
    (defaulted name (Decoder.nullable item) none).Draws (·.toList.flatMap parts) :=
  draws_defaulted (Decoder.draws_nullable h) rfl

theorem Draws.map {f : α → β} (h : r.Draws parts) (hf : ∀ a, parts' (f a) ⊆ parts a) :
    (r.map f).Draws parts' where
  gathered members b hb w hw := by
    obtain ⟨a, ha, rfl⟩ := map_eq_ok.mp hb
    exact h.gathered members a ha w (hf a hw)
  listed expected taken items b rest hb := by
    obtain ⟨⟨a, left⟩, ha, hb⟩ := bind_eq_ok.mp hb
    cases hb
    obtain ⟨hrest, hparts⟩ := h.listed expected taken items a rest ha
    exact ⟨hrest, fun w hw => hparts w (hf a hw)⟩

theorem Draws.and (h : r.Draws parts) (h' : s.Draws parts') :
    (r.and s).Draws fun ab => parts ab.1 ++ parts' ab.2 where
  gathered members ab hab w hw := by
    obtain ⟨a, ha, hab⟩ := bind_eq_ok.mp hab
    obtain ⟨b, hb, hab⟩ := bind_eq_ok.mp hab
    cases hab
    rcases List.mem_append.mp hw with hw | hw
    · exact h.gathered members a ha w hw
    · exact h'.gathered members b hb w hw
  listed expected taken items ab rest hab := by
    obtain ⟨⟨a, more⟩, ha, hab⟩ := bind_eq_ok.mp hab
    obtain ⟨⟨b, last⟩, hb, hab⟩ := bind_eq_ok.mp hab
    cases hab
    obtain ⟨hmore, hparts⟩ := h.listed expected taken items a more ha
    obtain ⟨hrest, hparts'⟩ := h'.listed expected _ more b rest hb
    refine ⟨List.Subset.trans hrest hmore, fun w hw => ?_⟩
    rcases List.mem_append.mp hw with hw | hw
    · exact hparts w hw
    · obtain ⟨v, hv, hwithin⟩ := hparts' w hw
      exact ⟨v, hmore hv, hwithin⟩

theorem Draws.ofMembers (h : r.Draws parts) {members : Members} {a : α}
    (ha : r.ofMembers members = .ok a) : ∀ w ∈ parts a, ∃ m ∈ members, Within w m.2 := by
  obtain ⟨_, _, hg⟩ := bind_eq_ok.mp ha
  exact h.gathered members a hg

/-- Elements of which none may be left, whatever is said about those that are. -/
theorem Draws.ofElements (h : r.Draws parts) {items : List Json} {refusal : DecodeError} {a : α}
    (ha : (do
      let (b, rest) ← r.ofElements name items
      if rest.isEmpty then pure b else .error refusal) = .ok a) :
    ∀ w ∈ parts a, ∃ v ∈ items, Within w v := by
  obtain ⟨⟨b, rest⟩, he, ha⟩ := bind_eq_ok.mp ha
  cases hr : rest.isEmpty with
  | true =>
    obtain rfl : b = a := by simpa [hr, pure, Except.pure] using ha
    exact (h.listed _ 0 items b rest he).2
  | false => simp [hr] at ha

theorem Draws.ofRest (h : r.Draws parts) {items : List Json} {a : α}
    (ha : r.ofRest name items = .ok a) : ∀ w ∈ parts a, ∃ v ∈ items, Within w v :=
  h.ofElements ha

theorem Draws.decoder (h : r.Draws parts) (name : String) :
    Decoder.Draws (r.decoder name) parts := by
  intro v a hv w hw
  cases v with
  | object members =>
    obtain ⟨m, hm, hwithin⟩ := h.ofMembers hv w hw
    exact .member hm hwithin
  | array items =>
    obtain ⟨u, hu, hwithin⟩ := h.ofElements hv w hw
    exact .item hu hwithin
  | _ => cases hv

end Record

end Conformance.Json
