import Conformance.Json.Reader
import Conformance.Reply.Complaint

/-!
Opening a response: the status, then the JSON object, then the envelope field of the protocol. An
object without that field may belong to another protocol.
-/

namespace Conformance.Reply

open Json (Members)

/-- The JSON object in the body of a response with status 200. -/
def object (expected : Protocol) (status : Int) (body : String) : Except Complaint Members :=
  if status = noResponse then .error (.noResponse body)
  else if status ≠ 200 then .error (.badStatus status body)
  else match Json.read body with
    | .ok (.object members) => .ok members
    | .ok other => .error (.notObject expected other)
    | .error cause => .error (.notJson expected cause)

/-- The first other protocol that the object looks like. -/
def foreignTo (expected : Protocol) (members : Members) : Option Protocol :=
  Protocol.all.find? fun p => p ≠ expected ∧ p.hasSignature members

/-- The object of a chat response, which has the protocol's envelope field. -/
def envelope (expected : Protocol) (status : Int) (body : String) : Except Complaint Members := do
  let members ← object expected status body
  if members.contains expected.envelopeField then pure members
  else match foreignTo expected members with
    | some received => .error (.foreign received expected)
    | none => .error (.missing expected.envelopeField (expected.displayName ++ " response"))

/-- Reads what a record asks for from an opened object. -/
def decode {α : Type} (expected : Protocol) (record : Json.Record α) (members : Members) :
    Except Complaint α :=
  (record.ofMembers members).mapError (.malformed expected)

end Conformance.Reply
