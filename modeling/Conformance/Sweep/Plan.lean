import Conformance.Config.Basic
import Conformance.Request.Address
import Conformance.Request.Payload
import Conformance.Request.Redaction
import Conformance.Sweep.Case

/-!
Which cases a run has. They follow from the configuration and the plan: model listings, embeddings,
and for each protocol a text and a tool request on each of the five routes.
-/

namespace Conformance

/-- The suites and protocols of a run. -/
structure Plan where
  suites : List Suite
  protocols : List Protocol
deriving DecidableEq, Repr

/-- All of `all` that were chosen, in its order; everything where nothing was chosen. -/
def selection {α : Type} [DecidableEq α] (all chosen : List α) : List α :=
  all.filter fun a => chosen.isEmpty || chosen.contains a

namespace Plan

def ofChoice (suites : List Suite) (protocols : List Protocol) : Plan :=
  ⟨selection Suite.all suites, selection Protocol.all protocols⟩

def everything : Plan := ofChoice [] []

end Plan

namespace Config

def baseUrl (c : Config) : String := c.target.baseUrl

/-- The model asked for on a route. -/
def modelOn (c : Config) : Route → String
  | .default => c.models.default
  | .switch => c.models.switch
  | .switchCompat => c.models.switch
  | .group _ => c.models.group
  | .groupCompat _ => c.models.group

/-- The five routes with the models asked for. -/
def routes (c : Config) : List (Route × String) :=
  (Route.all c.models.groupName).map fun route => (route, c.modelOn route)

/-- The chat cases of one protocol: on each route the text request, then the tool request. -/
def chatCases (c : Config) (p : Protocol) : List ChatCase :=
  c.routes.flatMap fun (route, model) => Scenario.all.map fun s => ⟨p, route, model, s⟩

def chatUrl (c : Config) (k : ChatCase) : String :=
  k.protocol.chatUrl c.baseUrl k.route k.model c.target.apiKey

/-- JSON can always be written out. -/
def jsonBody (payload : Json) : Except String (Option Body) :=
  .ok (some (.json payload.canonical))

def chatCase (c : Config) (k : ChatCase) : Case where
  id := ⟨.chat, k.protocol, some k.route, some k.scenario, k.label, "POST",
    Redaction.mask (c.chatUrl k)⟩
  url := c.chatUrl k
  headers := k.protocol.authHeaders c.target.apiKey
  body := jsonBody (Payload.chat k.protocol k.model k.scenario)
  check := .chat k.protocol (k.expectation c.strictCompat)

/-- A case without route and scenario. -/
def probe (suite : Suite) (label method url : String) (headers : Headers)
    (body : Except String (Option Body)) (check : Check) (p : Protocol) : Case :=
  ⟨⟨suite, p, none, none, label, method, Redaction.mask url⟩, url, headers, body, check⟩

/-- Every listing is asked for with the same header, Gemini's with the key in the URL as well. -/
def listing (c : Config) (label url : String) (kind : Reply.Catalogue) : Case :=
  probe .models label "GET" url (Protocol.openAI.authHeaders c.target.apiKey) (.ok none)
    (.models kind) kind.protocol

def listings (c : Config) : List Case :=
  let base := c.baseUrl
  [c.listing "OpenAI List" (base ++ "/v1/models") .openAI,
    c.listing "Ollama Tags" (base ++ "/api/tags") .ollama,
    c.listing "Gemini Models" (Gemini.modelsUrl base c.target.apiKey) .gemini,
    c.listing "Grouped List" (base ++ "/" ++ c.models.groupName ++ "/v1/models") .openAI,
    c.listing "Switch List" (base ++ "/switch/v1/models") .openAI]

def embedding (label url : String) (headers : Headers) (body : Json) (kind : Reply.Catalogue) :
    Case :=
  probe .embeddings label "POST" url headers (jsonBody body) (.embedding kind) kind.protocol

def embeddings (c : Config) : List Case :=
  let base := c.baseUrl
  let key := c.target.apiKey
  let bearer := Protocol.openAI.authHeaders key
  let body := Payload.embedding c.models.embed
  [embedding "OpenAI Embed" (base ++ "/v1/embeddings") bearer body .openAI,
    embedding "Gemini Embed" (Gemini.embedUrl base c.models.embed key) []
      Payload.geminiEmbedding .gemini,
    embedding "Ollama Embed" (base ++ "/api/embed") bearer body .ollama]

end Config

/-- One step of a run. -/
inductive Step where
  | suiteStarted (suite : Suite)
  | protocolStarted (protocol : Protocol)
  | case (c : Case)
  | suiteFinished (suite : Suite) (cases : Nat)

namespace Plan

def includes (plan : Plan) (p : Protocol) : Bool :=
  plan.protocols.contains p

/-- The probes among `cases` whose protocol is in the plan. -/
def chosen (plan : Plan) (cases : List Case) : List Case :=
  cases.filter fun c => plan.includes c.id.protocol

/-- The steps within a suite. -/
def suiteSteps (plan : Plan) (config : Config) : Suite → List Step
  | .models => (plan.chosen config.listings).map .case
  | .embeddings => (plan.chosen config.embeddings).map .case
  | .chat => plan.protocols.flatMap fun p =>
      .protocolStarted p :: (config.chatCases p).map fun k => .case (config.chatCase k)

def casesIn (steps : List Step) : List Case :=
  steps.filterMap fun
    | .case c => some c
    | _ => none

/-- The steps of a run, in order. -/
def steps (plan : Plan) (config : Config) : List Step :=
  plan.suites.flatMap fun suite =>
    let inner := plan.suiteSteps config suite
    .suiteStarted suite :: inner ++ [.suiteFinished suite (casesIn inner).length]

end Plan

/-- A chat case as it is shown before a run. -/
structure PlannedCase where
  chat : ChatCase
  expects : Expectation
  url : String

namespace PlannedCase

/-- The texts of a planned case under the names of its columns. -/
def members (p : PlannedCase) : List (String × Json) :=
  [("protocol", .string p.chat.protocol.name), ("route", .string p.chat.route.label),
    ("model", .string p.chat.model), ("scenario", .string p.chat.scenario.label),
    ("expects", .string p.expects.name), ("url", .string p.url)]

def toJson (p : PlannedCase) : Json := .object p.members

end PlannedCase

/-- Every chat case of a plan, with the API key masked. -/
def Plan.plannedCases (plan : Plan) (config : Config) : List PlannedCase :=
  (plan.protocols.flatMap config.chatCases).map fun k =>
    ⟨k, k.expectation config.strictCompat, Redaction.mask (config.chatUrl k)⟩

end Conformance
