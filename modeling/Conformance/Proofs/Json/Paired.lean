import Conformance.Proofs.Json.Fields

/-! Two readings of one value with records that differ in some of their fields. -/
namespace Conformance.Json

variable {α β γ δ : Type} {R : α → β → Prop} {S : γ → δ → Prop} {x : Except DecodeError α}
  {y : Except DecodeError β}

/-- Two readings of one value: both fail, each in its own words, or what they find belongs
together. -/
inductive Paired (R : α → β → Prop) : Except DecodeError α → Except DecodeError β → Prop where
  | failed (cause cause' : DecodeError) : Paired R (.error cause) (.error cause')
  | found {a : α} {b : β} (h : R a b) : Paired R (.ok a) (.ok b)

/-- Pairs of things that belong together. -/
def Both (R : α → β → Prop) (S : γ → δ → Prop) (a : α × γ) (b : β × δ) : Prop :=
  R a.1 b.1 ∧ S a.2 b.2

namespace Paired

theorem refl (x : Except DecodeError α) : Paired Eq x x := by
  cases x with
  | error cause => exact .failed cause cause
  | ok a => exact .found rfl

theorem bind {f : α → Except DecodeError γ} {g : β → Except DecodeError δ} (h : Paired R x y)
    (hf : ∀ a b, R a b → Paired S (f a) (g b)) : Paired S (x >>= f) (y >>= g) := by
  cases h with
  | failed cause cause' => exact .failed cause cause'
  | found h => exact hf _ _ h

theorem map {f : α → γ} {g : β → δ} (h : Paired R x y) (hf : ∀ a b, R a b → S (f a) (g b)) :
    Paired S (x.map f) (y.map g) := by
  cases h with
  | failed cause cause' => exact .failed cause cause'
  | found h => exact .found (hf _ _ h)

theorem swap (h : Paired R x y) : Paired (fun b a => R a b) y x := by
  cases h with
  | failed cause cause' => exact .failed cause' cause
  | found h => exact .found h

theorem exists_ok {a : α} (h : Paired R (.ok a) y) : ∃ b, y = .ok b ∧ R a b := by
  cases h with
  | found h => exact ⟨_, rfl, h⟩

variable {key : String} {members : Members} {items : List Json} {item : Decoder α}
  {item' : Decoder β} {default : α} {default' : β}

theorem ofMembers_defaulted (ho : members.Ordered) (hd : R default default')
    (hv : ∀ v, members.get? key = some v → Paired R (item v) (item' v)) :
    Paired R ((Record.defaulted key item default).ofMembers members)
      ((Record.defaulted key item' default').ofMembers members) := by
  rw [Record.ofMembers_defaulted ho, Record.ofMembers_defaulted ho]
  cases hg : members.get? key with
  | none => exact .found hd
  | some v => exact hv v hg

/-- A record put together from two fails where either of them does. -/
theorem ofMembers_and {r : Record α} {r' : Record β} {s : Record γ} {s' : Record δ}
    (hr : Paired R (r.ofMembers members) (r'.ofMembers members))
    (hs : Paired S (s.ofMembers members) (s'.ofMembers members)) :
    Paired (Both R S) ((r.and s).ofMembers members) ((r'.and s').ofMembers members) := by
  cases hb : (r.and s).ofMembers members with
  | ok both =>
    obtain ⟨hra, hsb⟩ := Record.ofMembers_and.mp hb
    rw [hra] at hr
    rw [hsb] at hs
    obtain ⟨a, hra, ha⟩ := hr.exists_ok
    obtain ⟨b, hsb, hb⟩ := hs.exists_ok
    rw [Record.ofMembers_and.mpr ⟨hra, hsb⟩]
    exact .found ⟨ha, hb⟩
  | error cause =>
    cases hb' : (r'.and s').ofMembers members with
    | error cause' => exact .failed cause cause'
    | ok both =>
      -- where both parts are found on one side they are found on the other one, against `hb`
      obtain ⟨hra, hsb⟩ := Record.ofMembers_and.mp hb'
      rw [hra] at hr
      rw [hsb] at hs
      obtain ⟨a, hra, _⟩ := hr.swap.exists_ok
      obtain ⟨b, hsb, _⟩ := hs.swap.exists_ok
      rw [Record.ofMembers_and.mpr ⟨hra, hsb⟩] at hb
      cases hb

end Paired

/-- Two records read side by side from the front of one list leave the same rest of it. -/
def Listed (R : α → β → Prop) (r : Record α) (s : Record β) (items : List Json) : Prop :=
  ∀ expected expected' taken taken',
    Paired (Both R Eq) (r.elements expected taken items) (s.elements expected' taken' items)

namespace Listed

variable {r : Record α} {r' : Record β} {s : Record γ} {s' : Record δ} {items : List Json}

theorem defaulted {key : String} {item : Decoder α} {item' : Decoder β} {default : α}
    {default' : β} (hd : R default default')
    (hv : ∀ v ∈ items.head?, Paired R (item v) (item' v)) :
    Listed R (Record.defaulted key item default) (Record.defaulted key item' default') items := by
  intro expected expected' taken taken'
  cases items with
  | nil => exact .found ⟨hd, rfl⟩
  | cons v rest => exact .bind (hv v rfl) fun a b hab => .found ⟨hab, rfl⟩

theorem map {f : α → γ} {g : β → δ} (h : Listed R r r' items)
    (hf : ∀ a b, R a b → S (f a) (g b)) : Listed S (r.map f) (r'.map g) items := by
  intro expected expected' taken taken'
  refine .bind (h expected expected' taken taken') ?_
  rintro ⟨a, rest⟩ ⟨b, _⟩ ⟨hab, rfl⟩
  exact .found ⟨hf a b hab, rfl⟩

theorem and (hr : Listed R r r' items) (hs : ∀ rest, Listed S s s' rest) :
    Listed (Both R S) (r.and s) (r'.and s') items := by
  intro expected expected' taken taken'
  refine .bind (hr expected expected' taken taken') ?_
  rintro ⟨a, rest⟩ ⟨b, _⟩ ⟨hab, rfl⟩
  refine .bind (hs rest expected expected' _ _) ?_
  rintro ⟨c, left⟩ ⟨d, _⟩ ⟨hcd, rfl⟩
  exact .found ⟨⟨hab, hcd⟩, rfl⟩

theorem decoder (name name' : String) (h : Listed R r r' items) :
    Paired R (r.decoder name (.array items)) (r'.decoder name' (.array items)) := by
  refine .bind (h _ _ 0 0) ?_
  rintro ⟨a, rest⟩ ⟨b, _⟩ ⟨hab, rfl⟩
  cases rest with
  | nil => exact .found hab
  | cons v rest => exact .failed _ _

end Listed

end Conformance.Json
