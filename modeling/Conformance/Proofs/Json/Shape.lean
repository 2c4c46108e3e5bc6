import Conformance.Proofs.Json.Fields

/-! Shapes of values, and decoders that find in a value of the right shape what stands there. -/
namespace Conformance.Json

open Outcome

/-- The member of a name. What is not there counts as null. -/
def member (key : String) : Json → Json
  | .object members => (Members.get? members key).getD .null
  | _ => .null

def text? : Json → Option String
  | .string s => some s
  | _ => none

/-- The text of a value, which is empty if it has none. -/
def text (v : Json) : String := v.text?.getD ""

def elements : Json → List Json
  | .array items => items
  | _ => []

def isNull : Json → Bool
  | .null => true
  | _ => false

def isString (v : Json) : Bool := v.text?.isSome

def orNull (shape : Json → Bool) (v : Json) : Bool :=
  v.isNull || shape v

def listOf (shape : Json → Bool) : Json → Bool
  | .array items => items.all shape
  | _ => false

/-- An object with a member of this name and shape. Its other members are free. -/
def has (key : String) (shape : Json → Bool) : Json → Bool
  | .object members => (Members.get? members key).any shape
  | _ => false

/-- An object whose member of this name, if there is one, has this shape. -/
def mayHave (key : String) (shape : Json → Bool) : Json → Bool
  | .object members => (Members.get? members key).all shape
  | _ => false

variable {α β : Type} {v : Json} {key : String} {shape : Json → Bool} {item : Decoder α}
  {find : Json → α}

theorem object_of_has (h : has key shape v) :
    ∃ (members : Members) (w : Json), v = .object members ∧ members.get? key = some w ∧
      v.member key = w ∧ shape w := by
  cases v with
  | object members =>
    obtain ⟨w, hw, hs⟩ := (Option.any_eq_true _ _).mp h
    exact ⟨members, w, rfl, hw, by simp [member, hw], hs⟩
  | _ => cases h

/-- On sorted values of a shape, decoding finds what `find` finds. -/
def Finds (item : Decoder α) (shape : Json → Bool) (find : Json → α) : Prop :=
  ∀ v, Sorted v → shape v → item v = .ok (find v)

theorem finds_string : Finds Decoder.string isString text := by
  intro v _ h
  cases v with
  | string s => rfl
  | _ => cases h

theorem finds_list (hi : Finds item shape find) :
    Finds (Decoder.list item) (listOf shape) fun v => v.elements.map find := by
  intro v hs h
  cases v with
  | array items =>
    refine mapM_eq_ok_map fun w hw => hi w (hs.items w hw) ?_
    exact List.all_eq_true.mp h w hw
  | _ => cases h

theorem finds_nullable {find : Json → Option α} (hn : find .null = none)
    (hi : ∀ v, Sorted v → shape v → ∃ a, item v = .ok a ∧ find v = some a) :
    Finds (Decoder.nullable item) (orNull shape) find := by
  intro v hs h
  by_cases hv : v = .null
  · subst hv
    rw [hn]
    rfl
  · have hw : shape v := by
      cases v with
      | null => exact absurd rfl hv
      | _ => exact h
    obtain ⟨a, ha, hf⟩ := hi v hs hw
    rw [hf]
    cases v with
    | null => exact absurd rfl hv
    | _ => exact map_eq_ok.mpr ⟨a, ha, rfl⟩

theorem finds_required {name : String} (hi : Finds item shape find) :
    Finds ((Record.required key item).decoder name) (has key shape)
      fun v => find (v.member key) := by
  intro v hs h
  obtain ⟨members, w, rfl, hw, hm, hsh⟩ := object_of_has h
  have hi := hi w (hs.get? hw) hsh
  simp only [hm, ← hi]
  exact Record.ofMembers_required hs.ordered hw

/-- A field with a default is found as its member, if the default is what null would give. -/
theorem defaulted_finds (default : α) {members : Members} (hi : Finds item shape find)
    (hd : find .null = default) (hs : Sorted (.object members))
    (h : mayHave key shape (.object members)) :
    (Record.defaulted key item default).ofMembers members =
      .ok (find (member key (.object members))) := by
  rw [Record.ofMembers_defaulted hs.ordered]
  simp only [mayHave] at h
  cases hw : members.get? key with
  | none => simp [member, hw, hd]
  | some w =>
    rw [hw] at h
    simpa [member, hw] using hi w (hs.get? hw) h

end Conformance.Json
