import Conformance.Json.Decode

/-!
Verdicts on a response, with their JSON form.
-/

namespace Conformance

/-- The kind of a failure. -/
inductive Fault where
  | transport
  | status
  | decode
  | shape
  | semantic
  | protocolMismatch
deriving DecidableEq, Repr

namespace Fault

def all : List Fault := [transport, status, decode, shape, semantic, protocolMismatch]

/-- The place of a kind in their order. -/
def rank (f : Fault) : Nat := all.idxOf f

def name : Fault → String
  | transport => "transport"
  | status => "status"
  | decode => "decode"
  | shape => "shape"
  | semantic => "semantic"
  | protocolMismatch => "protocol_mismatch"

def label : Fault → String
  | protocolMismatch => "protocol-mismatch"
  | other => other.name

def decoder : Json.Decoder Fault :=
  .variant (all.map fun f => (f.name, f))

end Fault

/-- What a chat response must hold to pass. -/
inductive Expectation where
  | text
  | toolCall
deriving DecidableEq, Repr

namespace Expectation

/-- A tool request and a compatibility route both call for a tool. -/
def ofKind (isTool isCompat : Bool) : Expectation :=
  if isTool || isCompat then toolCall else text

def name : Expectation → String
  | text => "text"
  | toolCall => "tool_call"

def decoder : Json.Decoder Expectation :=
  .variant [("text", text), ("tool_call", toolCall)]

end Expectation

/-- What a passing response yielded. -/
inductive Extracted where
  | text (content : String)
  | toolCall (tool : String)
  | count (n : Nat)
deriving DecidableEq, Repr

namespace Extracted

def kind : Extracted → String
  | text _ => "text"
  | toolCall _ => "tool_call"
  | count _ => "count"

def toJson (e : Extracted) : Json :=
  let value := match e with
    | text content => Json.string content
    | toolCall tool => .string tool
    | count n => .ofNat n
  .object [("kind", .string e.kind), ("value", value)]

/-- Reads the value that goes with a kind. -/
def ofKind : String → Json → Except Json.DecodeError Extracted
  | "text", value => (Json.Decoder.string value).map text
  | "tool_call", value => (Json.Decoder.string value).map toolCall
  | _, value => (Json.Decoder.unsigned UInt64.size "usize" value).map count

def kinds : List (String × String) :=
  [("text", "text"), ("tool_call", "tool_call"), ("count", "count")]

def expected : String := "adjacently tagged enum Extracted"

/-- A kind and a value, as two members or as two elements. -/
def decoder : Json.Decoder Extracted
  | .object members => do
    let some tag := Json.Members.get? members "kind" | .error (.missingField "kind")
    let kind ← Json.Decoder.variant kinds tag
    let some value := Json.Members.get? members "value" | .error (.missingField "value")
    ofKind kind value
  | .array items =>
    match items with
    | [] => .error (.invalidLength 0 expected)
    | tag :: rest => do
      let kind ← (Json.Decoder.tag tag).bind (Json.Decoder.named kinds)
      match rest with
      | [] => .error (.invalidLength 1 expected)
      | value :: more =>
        let e ← ofKind kind value
        if more.isEmpty then pure e
        else .error (.invalidLength items.length "fewer elements in array")
  | other => .error (.invalidType other expected)

end Extracted

/-- The judgement on one response. -/
structure Verdict where
  passed : Bool
  message : String
  fault : Option Fault
  extracted : Option Extracted
deriving DecidableEq, Repr

namespace Verdict

def pass (message : String) (extracted : Extracted) : Verdict :=
  ⟨true, message, none, some extracted⟩

def fail (fault : Fault) (message : String) : Verdict :=
  ⟨false, message, some fault, none⟩

/-- The text of a response that passed on its text. -/
def text? (v : Verdict) : Option String :=
  match v.extracted with
  | some (.text content) => some content
  | _ => none

/-- The tool of a response that passed on a tool call. -/
def tool? (v : Verdict) : Option String :=
  match v.extracted with
  | some (.toolCall tool) => some tool
  | _ => none

/-- The members that are there, in the order of the fields. -/
def members (v : Verdict) : List (String × Json) :=
  [("passed", .bool v.passed), ("message", .string v.message)]
    ++ (v.fault.map fun f => ("fault", Json.string f.name)).toList
    ++ (v.extracted.map fun e => ("extracted", e.toJson)).toList

def toJson (v : Verdict) : Json :=
  .object v.members

def decoder : Json.Decoder Verdict :=
  ((Json.Record.required "passed" Json.Decoder.bool)
    |>.and (.required "message" Json.Decoder.string)
    |>.and (.optional "fault" Fault.decoder)
    |>.and (.optional "extracted" Extracted.decoder)
    |>.map fun (((passed, message), fault), extracted) => ⟨passed, message, fault, extracted⟩)
    |>.decoder "struct Verdict"

end Verdict

end Conformance
