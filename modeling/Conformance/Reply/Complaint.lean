import Conformance.Protocol.Basic
import Conformance.Json.Syntax
import Conformance.Text.Preview
import Conformance.Verdict.Basic

/-!
What can be wrong with a response, the kind of failure each complaint is, and its wording.
-/

namespace Conformance

/-- How much of a body or of the model's own words a complaint quotes. -/
def bodyPreview : Nat := 100

/-- How much of the model's text a passing verdict quotes. -/
def textPreview : Nat := 25

/-- Stands in the place of a status where there was no response. -/
def noResponse : Int := -1

inductive Complaint where
  | noResponse (detail : String)
  | badStatus (status : Int) (body : String)
  | notJson (expected : Protocol) (cause : Json.SyntaxError)
  | notObject (expected : Protocol) (found : Json)
  | missing (field subject : String)
  | foreign (received expected : Protocol)
  | malformed (expected : Protocol) (cause : Json.DecodeError)
  | emptyList (field subject : String)
  | emptyContent
  | noToolCall (field said : String)
  | emptyEmbedding
deriving Repr

/-- The kind of value, as a complaint names it. -/
def Json.kind : Json → String
  | null => "null"
  | bool _ => "boolean"
  | number _ => "number"
  | string _ => "string"
  | array _ => "array"
  | object _ => "object"

namespace Complaint

def fault : Complaint → Fault
  | noResponse _ => .transport
  | badStatus _ _ => .status
  | notJson _ _ => .decode
  | notObject _ _ => .shape
  | missing _ _ => .shape
  | foreign _ _ => .protocolMismatch
  | malformed _ _ => .decode
  | emptyList _ _ => .semantic
  | emptyContent => .semantic
  | noToolCall _ _ => .semantic
  | emptyEmbedding => .semantic

def message : Complaint → String
  | noResponse detail => s!"HTTP -1 (no response): {Text.truncate bodyPreview detail}"
  | badStatus status body => s!"HTTP {status}: {Text.truncate bodyPreview body}"
  | notJson expected cause =>
    s!"Invalid JSON in {expected.displayName} response: {cause.message}"
  | notObject expected found =>
    s!"Expected a JSON object in {expected.displayName} response, got {found.kind}"
  | missing field subject => "Missing '" ++ field ++ "' in " ++ subject
  | foreign received expected =>
    s!"Protocol Error: protocol mismatch, received {received.displayName} format "
      ++ s!"but expected {expected.displayName}"
  | malformed expected cause =>
    s!"Malformed {expected.displayName} response: {cause.message}"
  | emptyList field subject => "Empty '" ++ field ++ "' in " ++ subject
  | emptyContent => "Empty content"
  | noToolCall field said => s!"{field} missing. Model said: {Text.truncate bodyPreview said}"
  | emptyEmbedding => "Empty embedding"

def verdict (c : Complaint) : Verdict :=
  .fail c.fault c.message

end Complaint

/-- The judgement on what was found, or on what is wrong. -/
def Verdict.ofExcept : Except Complaint Verdict → Verdict
  | .ok v => v
  | .error c => c.verdict

end Conformance
