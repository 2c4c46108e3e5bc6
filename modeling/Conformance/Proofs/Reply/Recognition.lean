import Conformance.Proofs.Reply.Faults
import Mathlib

/-! Whose response a body is, as seen by a protocol that did not expect it. -/
namespace Conformance.Reply

open Json (Members)
open Outcome

variable {p q : Protocol} {e e' : Expectation} {body : String} {members : Members} {value : Json}

theorem array_of_list {α : Type} {item : Json.Decoder α} {as : List α}
    (h : Json.Decoder.list item value = .ok as) : ∃ items, value = .array items := by
  cases value with
  | array items => exact ⟨items, rfl⟩
  | _ => cases h

/-- A record is written as an object or as a list of its fields. -/
theorem object_or_array_of_record {α : Type} {r : Json.Record α} {name : String} {a : α}
    (h : r.decoder name value = .ok a) :
    (∃ members : Members, value = .object members) ∨ ∃ items, value = .array items := by
  cases value with
  | object members => exact Or.inl ⟨members, rfl⟩
  | array items => exact Or.inr ⟨items, rfl⟩
  | _ => cases h

/-- What a protocol can decode looks native to it, but for a message of Ollama in a list. -/
theorem looksNative_of_typed {answer : Except Complaint Chat}
    (ht : Chat.typed p value = .ok answer) :
    p.looksNative value ∨ p = .ollama ∧ ∃ items, value = .array items := by
  cases p with
  | openAI => exact Or.inl rfl
  | gemini => exact Or.inl rfl
  | claude =>
    obtain ⟨blocks, hb, _⟩ := map_eq_ok.mp ht
    obtain ⟨items, rfl⟩ := array_of_list hb
    exact Or.inl rfl
  | ollama =>
    obtain ⟨chat, hc, _⟩ := map_eq_ok.mp ht
    rcases object_or_array_of_record hc with ⟨members, rfl⟩ | ⟨items, rfl⟩
    · exact Or.inl rfl
    · exact Or.inr ⟨rfl, items, rfl⟩

theorem hasSignature_of_get? (hv : members.get? p.envelopeField = some value) :
    p.hasSignature members = p.looksNative value := by
  simp [Protocol.hasSignature, hv]

/-- What passes holds a typed envelope of its own. -/
theorem typed_of_passed (hr : Json.read body = .ok (.object members))
    (hp : (chatVerdict p e 200 body).passed) :
    ∃ value answer, members.get? p.envelopeField = some value ∧
      Chat.typed p value = .ok answer := by
  obtain ⟨members', value, hr', hv, answer, ht⟩ := passed_or_semantic_iff.mp (Or.inl hp)
  rw [hr] at hr'
  cases hr'
  exact ⟨value, answer, hv, ht⟩

/-- A message in a list beside no signature at all: only the reader of Ollama can place it. -/
def Unplaceable (p q : Protocol) (members : Members) : Prop :=
  q = .ollama ∧ (∃ items, members.get? "message" = some (.array items)) ∧
    ∀ r, r ≠ p → r.hasSignature members = false

/-- A response that passes elsewhere is foreign where its envelope is not expected, unless nothing
in it can be placed. -/
theorem foreign_or_unplaceable (hne : q ≠ p) (hr : Json.read body = .ok (.object members))
    (hq : (chatVerdict q e' 200 body).passed) (hl : members.get? p.envelopeField = none) :
    Foreign p body ∨ Unplaceable p q members ∧ Shapeless p body := by
  by_cases hs : ∃ r, r ≠ p ∧ r.hasSignature members
  · exact Or.inl ⟨members, hr, hl, hs⟩
  · have hs : ∀ r, r ≠ p → r.hasSignature members = false := by simpa using hs
    obtain ⟨value, answer, hv, ht⟩ := typed_of_passed hr hq
    have hsig := hs q hne
    rw [hasSignature_of_get? hv] at hsig
    rcases looksNative_of_typed ht with hn | ⟨rfl, items, rfl⟩
    · rw [hn] at hsig
      cases hsig
    · exact Or.inr ⟨⟨rfl, ⟨items, hv⟩, hs⟩, Or.inr ⟨members, hr, hl, hs⟩⟩

theorem passed_contains (hr : Json.read body = .ok (.object members))
    (hp : (chatVerdict p e 200 body).passed) : members.contains p.envelopeField := by
  obtain ⟨value, _, hv, _⟩ := typed_of_passed hr hp
  rw [Members.contains_eq_isSome, hv, Option.isSome_some]

/-- A response that is good for one protocol is foreign to every other one whose envelope it does
not carry, unless it is unplaceable; and to be good for two it must carry both envelopes. -/
theorem recognised_of_passed (p q : Protocol) (hne : p ≠ q) (e e' : Expectation) (body : String)
    (members : Members) (hr : Json.read body = .ok (.object members))
    (hq : (chatVerdict q e' 200 body).passed) :
    (members.contains p.envelopeField = false →
      (chatVerdict p e 200 body).passed = false ∧
      ((chatVerdict p e 200 body).fault = some .protocolMismatch ↔ ¬ Unplaceable p q members) ∧
      ((chatVerdict p e 200 body).fault = some .shape ↔ Unplaceable p q members)) ∧
    ((chatVerdict p e 200 body).passed →
      members.contains p.envelopeField ∧ members.contains q.envelopeField) := by
  refine ⟨fun hl => ⟨?_, ?_⟩, fun hp => ⟨passed_contains hr hp, passed_contains hr hq⟩⟩
  · apply Bool.eq_false_iff.mpr
    intro hp
    have hc := passed_contains hr hp
    rw [hl] at hc
    cases hc
  rw [Members.contains_eq_isSome, Option.isSome_eq_false_iff, Option.isNone_iff_eq_none] at hl
  rcases foreign_or_unplaceable hne.symm hr hq hl with hf | ⟨hu, hs⟩
  · have hnot : ¬ Unplaceable p q members := by
      rintro ⟨_, _, hs⟩
      have hc := Shapeless.fault (e := e) (Or.inr ⟨members, hr, hl, hs⟩)
      rw [hf.fault] at hc
      cases hc
    simp [hf.fault, hnot]
  · simp [hs.fault, hu]

/-- A tool call in nested lists is placed by the signature of a third protocol. -/
theorem recognised_by_third_signature :
    (chatVerdict .openAI .text 200
      "\x7b\"candidates\":0,\"message\":[\"\",[[[\"get_weather\"]]]]\x7d").fault =
      some .protocolMismatch := by
  have hr : Json.read "\x7b\"candidates\":0,\"message\":[\"\",[[[\"get_weather\"]]]]\x7d" =
      .ok (.object [("candidates", .number (.integer 0)), ("message", .array [.string "",
        .array [.array [.array [.string "get_weather"]]]])]) := by cbv
  have h := recognised_of_passed .openAI .ollama (by decide) .text .toolCall _ _ hr
    (by decide +kernel)
  apply (h.1 (by decide)).2.1.mpr
  rintro ⟨_, _, hs⟩
  have hg := hs .gemini (by decide)
  exact absurd hg (by decide)

/-- A message in a list passes for Ollama and is merely misshapen to the others. -/
theorem not_always_recognised :
    ¬ ∀ (p q : Protocol) (e e' : Expectation) (body : String) (members : Members), p ≠ q →
      Json.read body = .ok (.object members) → (chatVerdict q e' 200 body).passed →
      members.contains p.envelopeField = false →
      (chatVerdict p e 200 body).fault = some .protocolMismatch := by
  intro h
  have hr : Json.read "\x7b\"message\":[\"Hi\"]\x7d" =
      .ok (.object [("message", .array [.string "Hi"])]) := by cbv
  have hf := h .openAI .ollama .text .text _ _ (by decide) hr (by decide +kernel) (by decide)
  have hs : (chatVerdict .openAI .text 200 "\x7b\"message\":[\"Hi\"]\x7d").fault =
      some .shape := by decide +kernel
  rw [hs] at hf
  cases hf

end Conformance.Reply
