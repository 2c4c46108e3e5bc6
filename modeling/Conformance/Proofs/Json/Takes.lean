import Conformance.Proofs.Json.Shape
import Mathlib.Data.List.Forall2

/-! Decoders that take exactly the values of a shape. -/
namespace Conformance.Json

variable {α : Type} {item : Decoder α} {shape : Json → Bool} {R : Json → α → Prop}

def isNumber : Json → Bool
  | .number _ => true
  | _ => false

/-- A list of numbers. -/
def isVector : Json → Bool := listOf isNumber

/-- A decoder takes exactly the values of a shape, and makes of each what belongs to it. -/
def Takes (item : Decoder α) (shape : Json → Bool) (R : Json → α → Prop) : Prop :=
  ∀ v, (shape v = true → ∃ a, item v = .ok a ∧ R v a) ∧
    (shape v = false → ∃ cause, item v = .error cause)

theorem Takes.mono {S : Json → α → Prop} (h : Takes item shape R) (hs : ∀ v a, R v a → S v a) :
    Takes item shape S :=
  fun v => ⟨fun hv => ((h v).1 hv).imp fun a ha => ha.imp_right (hs v a), (h v).2⟩

theorem takes_number : Takes Decoder.number isNumber fun _ _ => True := by
  intro v
  cases v with
  | number n => exact ⟨fun _ => ⟨n, rfl, trivial⟩, nofun⟩
  | _ => exact ⟨nofun, fun _ => ⟨_, rfl⟩⟩

theorem takes_mapM (h : Takes item shape R) (items : List Json) :
    (items.all shape = true → ∃ as, items.mapM item = .ok as ∧ List.Forall₂ R items as) ∧
      (items.all shape = false → ∃ cause, items.mapM item = .error cause) := by
  induction items with
  | nil => exact ⟨fun _ => ⟨[], rfl, .nil⟩, nofun⟩
  | cons v items ih =>
    rw [List.all_cons, List.mapM_cons]
    constructor
    · intro hall
      obtain ⟨hv, hall⟩ := Bool.and_eq_true_iff.mp hall
      obtain ⟨a, ha, hr⟩ := (h v).1 hv
      obtain ⟨as, has, hrs⟩ := ih.1 hall
      exact ⟨a :: as, by rw [ha, has]; rfl, .cons hr hrs⟩
    · intro hall
      rcases (Bool.and_eq_false_iff).mp hall with hv | hall
      · obtain ⟨cause, hc⟩ := (h v).2 hv
        exact ⟨cause, by rw [hc]; rfl⟩
      · obtain ⟨cause, hc⟩ := ih.2 hall
        rw [hc]
        cases item v <;> exact ⟨_, rfl⟩

theorem Takes.list (h : Takes item shape R) :
    Takes (Decoder.list item) (listOf shape) fun v as => List.Forall₂ R v.elements as := by
  intro v
  cases v with
  | array items => exact takes_mapM h items
  | _ => exact ⟨nofun, fun _ => ⟨_, rfl⟩⟩

theorem orNull_of_ne {v : Json} (hn : v ≠ .null) : orNull shape v = shape v := by
  cases v with
  | null => exact absurd rfl hn
  | _ => rfl

theorem Takes.nullable (h : Takes item shape R) :
    Takes (Decoder.nullable item) (orNull shape) fun v found =>
      v = .null ∧ found = none ∨ ∃ a, found = some a ∧ R v a := by
  intro v
  by_cases hn : v = .null
  · subst hn
    exact ⟨fun _ => ⟨none, rfl, Or.inl ⟨rfl, rfl⟩⟩, nofun⟩
  · have hread : Decoder.nullable item v = (item v).map some := by
      cases v with
      | null => exact absurd rfl hn
      | _ => rfl
    rw [hread, orNull_of_ne hn]
    refine ⟨fun hv => ?_, fun hv => ?_⟩
    · obtain ⟨a, ha, hr⟩ := (h v).1 hv
      exact ⟨some a, by rw [ha]; rfl, Or.inr ⟨a, rfl, hr⟩⟩
    · obtain ⟨cause, hc⟩ := (h v).2 hv
      exact ⟨cause, by rw [hc]; rfl⟩

/-- A vector is as long as the list it was read from. -/
theorem takes_vector : Takes (Decoder.list Decoder.number) isVector fun v numbers =>
    numbers.length = v.elements.length :=
  takes_number.list.mono fun _ _ h => h.length_eq.symm

end Conformance.Json
