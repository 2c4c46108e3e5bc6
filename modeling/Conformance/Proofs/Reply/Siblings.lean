import Conformance.Proofs.Reply.Opening
import Mathlib

/-! Once a response carries the envelope of its protocol, nothing beside the envelope shows in the
verdict: no unknown member, and no envelope or signature of another protocol. -/
namespace Conformance.Reply

open Json (Members)

variable {p : Protocol} {e : Expectation} {body body' : String} {members members' : Members}
  {value : Json}

/-- What the value of the envelope field comes to, whatever response it stands in. -/
def envelopeVerdict (p : Protocol) (e : Expectation) (value : Json) : Verdict :=
  .ofExcept do
    let chat ← (Chat.typed p value).mapError (.malformed p) >>= id
    chat.judge p e

theorem chatVerdict_eq_envelopeVerdict (hr : Json.read body = .ok (.object members))
    (hv : members.get? p.envelopeField = some value) :
    chatVerdict p e 200 body = envelopeVerdict p e value :=
  chatVerdict_own hr hv

/-- Two responses whose envelopes have the same value are judged alike, down to the message. -/
theorem chatVerdict_eq_of_envelope (p : Protocol) (e : Expectation)
    (hr : Json.read body = .ok (.object members))
    (hr' : Json.read body' = .ok (.object members'))
    (hv : members.get? p.envelopeField = some value)
    (hv' : members'.get? p.envelopeField = some value) :
    chatVerdict p e 200 body = chatVerdict p e 200 body' := by
  rw [chatVerdict_eq_envelopeVerdict hr hv, chatVerdict_eq_envelopeVerdict hr' hv']

/-- A message of Ollama with nothing beside it. -/
def bareMessage : String := "\x7b\"message\":\x7b\"content\":5\x7d\x7d"

/-- The same message among envelopes of the other protocols, one of which is no list. -/
def crowdedMessage : String :=
  "\x7b\"choices\":null,\"message\":\x7b\"content\":5\x7d,\"content\":[],\"candidates\":\"x\"\x7d"

/-- The fault of the message is the same in both. -/
theorem chatVerdict_eq_of_envelope_crowded :
    chatVerdict .ollama .text 200 bareMessage = chatVerdict .ollama .text 200 crowdedMessage ∧
      (chatVerdict .ollama .text 200 crowdedMessage).fault = some .decode := by
  have hr : Json.read bareMessage =
      .ok (.object [("message", .object [("content", .number (.integer 5))])]) := by cbv
  have hr' : Json.read crowdedMessage =
      .ok (.object [("candidates", .string "x"), ("choices", .null), ("content", .array []),
        ("message", .object [("content", .number (.integer 5))])]) := by cbv
  refine ⟨chatVerdict_eq_of_envelope .ollama .text hr hr' rfl rfl, ?_⟩
  rw [chatVerdict_eq_envelopeVerdict hr' rfl]
  rfl

end Conformance.Reply
