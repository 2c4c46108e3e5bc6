import Conformance.Json.Decode
import Conformance.Proofs.Outcome

/-! The fields of a record that may be left out: each has the value that stands under its name or in
its place, or else its default. -/
namespace Conformance.Json

open Outcome

/-- What a document gives for a field: the member of this name, or the element in this place. -/
def given (place : Nat) (name : String) : Json → Option Json
  | .object members => Members.get? members name
  | .array items => items[place]?
  | _ => none

namespace Record

variable {α β γ : Type} {place : Nat} {name : String} {item : Decoder γ} {default : γ}

/-- Elements are taken from the front, as many as there are fields. -/
class Spans (r : Record α) : Prop where
  rest_eq : ∀ expected taken items a rest, r.elements expected taken items = .ok (a, rest) →
    rest = items.drop r.size

/-- A field whose value is what is given for it, or else the default. -/
structure Holds (r : Record α) (place : Nat) (name : String) (item : Decoder γ) (default : γ)
    (get : α → γ) : Prop where
  gathered : ∀ members a, r.gather members = .ok a →
    (members.get? name).elim (.ok default) item = .ok (get a)
  listed : ∀ expected taken items a rest, r.elements expected taken items = .ok (a, rest) →
    items[place]?.elim (.ok default) item = .ok (get a)

instance spans_defaulted (name : String) (item : Decoder γ) (default : γ) :
    (defaulted name item default).Spans where
  rest_eq expected taken items a rest h := by
    cases items with
    | nil =>
      cases h
      rfl
    | cons v more =>
      obtain ⟨_, _, h⟩ := bind_eq_ok.mp h
      cases h
      rfl

instance spans_and (r : Record α) (s : Record β) [hr : r.Spans] [hs : s.Spans] :
    (r.and s).Spans where
  rest_eq expected taken items ab rest h := by
    obtain ⟨⟨a, more⟩, ha, h⟩ := bind_eq_ok.mp h
    obtain ⟨⟨b, last⟩, hb, h⟩ := bind_eq_ok.mp h
    cases h
    rw [hs.rest_eq _ _ _ _ _ hb, hr.rest_eq _ _ _ _ _ ha, List.drop_drop]
    rfl

theorem holds_defaulted {name : String} {item : Decoder γ} {default : γ} :
    (defaulted name item default).Holds 0 name item default id where
  gathered members a h := by
    simp only [defaulted, fieldWith] at h
    cases hg : members.get? name <;> simpa [hg] using h
  listed expected taken items a rest h := by
    cases items with
    | nil =>
      cases h
      rfl
    | cons v more =>
      obtain ⟨_, hv, h⟩ := bind_eq_ok.mp h
      cases h
      exact hv

namespace Holds

variable {r : Record α} {s : Record β}

theorem left {get : α → γ} (h : r.Holds place name item default get) :
    (r.and s).Holds place name item default (get ∘ Prod.fst) where
  gathered members ab hab := by
    obtain ⟨a, ha, hab⟩ := bind_eq_ok.mp hab
    obtain ⟨b, _, hab⟩ := bind_eq_ok.mp hab
    cases hab
    exact h.gathered members a ha
  listed expected taken items ab rest hab := by
    obtain ⟨⟨a, more⟩, ha, hab⟩ := bind_eq_ok.mp hab
    obtain ⟨⟨b, _⟩, _, hab⟩ := bind_eq_ok.mp hab
    cases hab
    exact h.listed expected taken items a more ha

/-- A field of the later record comes after all fields of the first one. -/
theorem right {get : β → γ} [hr : r.Spans] (h : s.Holds place name item default get) :
    (r.and s).Holds (r.size + place) name item default (get ∘ Prod.snd) where
  gathered members ab hab := by
    obtain ⟨a, _, hab⟩ := bind_eq_ok.mp hab
    obtain ⟨b, hb, hab⟩ := bind_eq_ok.mp hab
    cases hab
    exact h.gathered members b hb
  listed expected taken items ab rest hab := by
    obtain ⟨⟨a, more⟩, ha, hab⟩ := bind_eq_ok.mp hab
    obtain ⟨⟨b, last⟩, hb, hab⟩ := bind_eq_ok.mp hab
    cases hab
    have hv := h.listed expected _ more b rest hb
    rwa [hr.rest_eq _ _ _ _ _ ha, List.getElem?_drop] at hv

theorem map {f : α → β} {get : α → γ} {get' : β → γ} (h : r.Holds place name item default get)
    (hf : ∀ a, get' (f a) = get a) : (r.map f).Holds place name item default get' where
  gathered members b hb := by
    obtain ⟨a, ha, rfl⟩ := map_eq_ok.mp hb
    rw [hf]
    exact h.gathered members a ha
  listed expected taken items b rest hb := by
    obtain ⟨⟨a, more⟩, ha, hb⟩ := bind_eq_ok.mp hb
    cases hb
    rw [hf]
    exact h.listed expected taken items a rest ha

theorem decoder {get : α → γ} (h : r.Holds place name item default get) (what : String) {v : Json}
    {a : α} (hv : r.decoder what v = .ok a) :
    (given place name v).elim (.ok default) item = .ok (get a) := by
  cases v with
  | object members =>
    obtain ⟨_, _, hg⟩ := bind_eq_ok.mp hv
    exact h.gathered members a hg
  | array items =>
    obtain ⟨⟨b, rest⟩, he, hv⟩ := bind_eq_ok.mp hv
    cases hr : rest.isEmpty with
    | true =>
      obtain rfl : b = a := by simpa [hr, pure, Except.pure] using hv
      exact h.listed _ 0 items b rest he
    | false => simp [hr] at hv
  | _ => cases hv

end Holds

end Record

end Conformance.Json
