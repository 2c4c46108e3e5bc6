import Conformance.Protocol.Route
import Conformance.Reply.Chat
import Conformance.Reply.Listing
import Conformance.Request.Basic

/-!
Cases: what is asked of the gateway, under which name it is reported, and how the answer is judged.
-/

namespace Conformance

/-- Cases that are run together. -/
inductive Suite where
  | models
  | embeddings
  | chat
deriving DecidableEq, Repr

namespace Suite

/-- Every suite, in the order in which they are run. -/
def all : List Suite := [models, embeddings, chat]

def name : Suite → String
  | models => "models"
  | embeddings => "embeddings"
  | chat => "chat"

def title : Suite → String
  | models => "1. Model Listing"
  | embeddings => "2. Embeddings"
  | chat => "3. Chat Protocol Matrix"

def decoder : Json.Decoder Suite :=
  .variant (all.map fun s => (s.name, s))

end Suite

/-- A chat case: what it asks follows from this alone. -/
structure ChatCase where
  protocol : Protocol
  route : Route
  model : String
  scenario : Scenario
deriving DecidableEq, Repr

namespace ChatCase

/-- A text request on a compatibility route calls for a tool only when that is asked for. -/
def expectation (c : ChatCase) (strictCompat : Bool) : Expectation :=
  match c.scenario with
  | .toolUse => .ofKind true c.route.isCompat
  | .text => .ofKind false (strictCompat && c.route.isCompat)

def label (c : ChatCase) : String :=
  c.scenario.label ++ " -> " ++ c.route.label

def toJson (c : ChatCase) : Json :=
  .object [("protocol", .string c.protocol.name), ("route", .string c.route.label),
    ("model", .string c.model), ("scenario", .string c.scenario.name)]

end ChatCase

/-- The identity of a case, which does not depend on its outcome. The API key is masked in the
URL. -/
structure CaseId where
  suite : Suite
  protocol : Protocol
  route : Option Route
  scenario : Option Scenario
  label : String
  method : String
  url : String
deriving DecidableEq, Repr

namespace CaseId

/-- Route and scenario are left out where there are none. -/
def members (c : CaseId) : List (String × Json) :=
  [("suite", .string c.suite.name), ("protocol", .string c.protocol.name)]
    ++ (c.route.map fun r => ("route", Json.string r.label)).toList
    ++ (c.scenario.map fun s => ("scenario", Json.string s.name)).toList
    ++ [("label", .string c.label), ("method", .string c.method), ("url", .string c.url)]

def toJson (c : CaseId) : Json :=
  .object c.members

end CaseId

/-- How an answer is judged. -/
inductive Check where
  | chat (protocol : Protocol) (expectation : Expectation)
  | models (catalogue : Reply.Catalogue)
  | embedding (catalogue : Reply.Catalogue)
deriving DecidableEq, Repr

def Check.verdict : Check → Int → String → Verdict
  | chat p expectation => Reply.chatVerdict p expectation
  | models catalogue => Reply.modelsVerdict catalogue
  | embedding catalogue => Reply.embeddingVerdict catalogue

structure Case where
  id : CaseId
  url : String
  headers : Headers
  /-- What is sent, or why it could not be written out. -/
  body : Except String (Option Body)
  check : Check

namespace Case

def request (c : Case) : Request :=
  ⟨c.id.method, c.url, c.headers, c.body.toOption.join⟩

@[simp] theorem request_method (c : Case) : c.request.method = c.id.method := rfl
@[simp] theorem request_url (c : Case) : c.request.url = c.url := rfl
@[simp] theorem request_headers (c : Case) : c.request.headers = c.headers := rfl
@[simp] theorem request_body (c : Case) : c.request.body = c.body.toOption.join := rfl

/-- Why the request could not be written out, if it could not. -/
def unwritten? (c : Case) : Option String :=
  match c.body with
  | .ok _ => none
  | .error why => some why

end Case

/-- The verdict on a request that could not be written out. -/
def unencoded (why : String) : Verdict := .fail .decode ("Failed to encode request: " ++ why)

/-- The outcome of a case. -/
structure CaseReport where
  id : CaseId
  verdict : Verdict
  elapsed : Nat
deriving DecidableEq, Repr

namespace CaseReport

def passed (r : CaseReport) : Bool := r.verdict.passed

def toJson (r : CaseReport) : Json :=
  .object (r.id.members ++ [("verdict", r.verdict.toJson), ("elapsed_ms", .ofNat r.elapsed)])

end CaseReport

end Conformance
