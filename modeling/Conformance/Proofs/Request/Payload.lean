import Conformance.Proofs.Json.Written
import Conformance.Proofs.Request.Address
import Conformance.Proofs.Request.Delivery
import Conformance.Sweep.Plan

/-! What a chat request says to the gateway. The same tool is declared to all protocols. -/
namespace Conformance.Payload

open Json (Members)

/-- A function that a model may call. -/
structure Tool where
  name : String
  description : String
  schema : Json

namespace Tool

/-- The shape that all protocols but Claude share. -/
def function (t : Tool) : Json :=
  .object [("description", .string t.description), ("name", .string t.name),
    ("parameters", t.schema)]

/-- A list of this one tool, in the native shape of a protocol. -/
def declaredTo (t : Tool) : Protocol → Json
  | .openAI => .array [.object [("function", t.function), ("type", .string "function")]]
  | .claude => .array [.object [("description", .string t.description),
      ("input_schema", t.schema), ("name", .string t.name)]]
  | .gemini => .array [.object [("functionDeclarations", .array [t.function])]]
  | .ollama => .array [.object [("function", t.function), ("type", .string "function")]]

end Tool

def weatherTool : Tool where
  name := "get_weather"
  description := toolDescription
  schema := toolSchema

/-- The user's one message. -/
def userMessages (text : String) : Json :=
  .array [.object [("content", .string text), ("role", .string "user")]]

/-- What Gemini has instead of messages. -/
def userContents (text : String) : Json :=
  .array [.object [("parts", .array [.object [("text", .string text)]]), ("role", .string "user")]]

/-- What a request says beside its tools, by name. -/
def said (p : Protocol) (model : String) (scenario : Scenario) : Members :=
  match p with
  | .claude => [("max_tokens", .ofNat 1024), ("messages", userMessages (prompt scenario)),
      ("model", .string model), ("stream", .bool false)]
  | .gemini => [("contents", userContents (prompt scenario))]
  | _ => [("messages", userMessages (prompt scenario)), ("model", .string model),
      ("stream", .bool false)]

/-- All that a request says. -/
def members (p : Protocol) (model : String) (scenario : Scenario) : Members :=
  said p model scenario ++
    if scenario = .toolUse then [("tools", weatherTool.declaredTo p)] else []

theorem canonical_chat (p : Protocol) (model : String) (scenario : Scenario) :
    (chat p model scenario).canonical = .object (members p model scenario) := by
  cases p <;> cases scenario <;> rfl

/-! ### Its text -/

theorem fits_toolSchema {limit : Nat} : Json.Fits (limit + 3) toolSchema := by
  have hschema : toolSchema = .object [
      ("properties", .object [("loc", .object [
        ("description", .string "The city and state, e.g. New York, NY"),
        ("type", .string "string")])]),
      ("required", .array [.string "loc"]), ("type", .string "object")] := rfl
  simp [hschema]

theorem fits_declaredTo {limit : Nat} (p : Protocol) :
    Json.Fits (limit + 7) (weatherTool.declaredTo p) := by
  cases p <;> simp [Tool.declaredTo, Tool.function, weatherTool, fits_toolSchema]

theorem fits_said {limit : Nat} (p : Protocol) (model : String) (scenario : Scenario) :
    ∀ m ∈ said p model scenario, Json.Fits (limit + 4) m.2 := by
  have htokens : Json.Fits (limit + 4) (.ofNat 1024) := Json.fits_ofNat (by decide)
  cases p <;> simp [said, userMessages, userContents, htokens]

theorem fits_members {limit : Nat} (p : Protocol) (model : String) (scenario : Scenario) :
    Json.Fits (limit + 8) (.object (members p model scenario)) := by
  refine .object fun m hm => ?_
  rcases List.mem_append.mp hm with hm | hm
  · exact fits_said p model scenario m hm
  · split at hm
    · rw [List.mem_singleton.mp hm]
      exact fits_declaredTo p
    · cases hm

/-- The text of a request. -/
def text (p : Protocol) (model : String) (scenario : Scenario) : String :=
  (chat p model scenario).canonical.compact

theorem read_text (p : Protocol) (model : String) (scenario : Scenario) :
    Json.read (text p model scenario) = .ok (.object (members p model scenario)) := by
  have hcanonical := canonical_chat p model scenario
  have hfits : Json.Fits Json.maxDepth (chat p model scenario).canonical :=
    hcanonical ▸ fits_members p model scenario
  rw [text, Json.read_compact_canonical hfits, hcanonical]

/-- Of a chat case, this text is what goes out. -/
theorem body_of_prepare {c : Config} {k : ChatCase} {d : Transport.Delivery}
    (h : Transport.prepare (c.chatCase k).request = .ok d) :
    d.body = text k.protocol k.model k.scenario := by
  obtain ⟨headers, u, _, _, _, rfl⟩ := Transport.prepare_eq_ok.mp h
  rfl

/-- Tools are declared where one is to be used, and nothing else goes by that name. -/
theorem tools_members (p : Protocol) (model : String) (scenario : Scenario) :
    (members p model scenario).get? "tools" =
      if scenario = .toolUse then some (weatherTool.declaredTo p) else none := by
  cases p <;> cases scenario <;> rfl

/-- What goes out of a chat case is a text of exactly these members, whatever the model is called.
Gemini's does not depend on the model at all, and Ollama is sent what OpenAI is. -/
theorem chat_text_faithful (p : Protocol) (model : String) (scenario : Scenario) :
    (∀ (c : Config) (route : Route),
      Transport.bodyText (c.chatCase ⟨p, route, model, scenario⟩).request.body =
          text p model scenario ∧
        ∀ d : Transport.Delivery,
          Transport.prepare (c.chatCase ⟨p, route, model, scenario⟩).request = .ok d →
            d.body = text p model scenario) ∧
    Json.read (text p model scenario) = .ok (.object (members p model scenario)) ∧
    (members p model scenario).get? "tools" =
      (if scenario = .toolUse then some (weatherTool.declaredTo p) else none) ∧
    (∀ model', text .gemini model scenario = text .gemini model' scenario) ∧
    text .openAI model scenario = text .ollama model scenario :=
  ⟨fun _ _ => ⟨rfl, fun _ => body_of_prepare⟩, read_text p model scenario,
    tools_members p model scenario, fun _ => rfl, rfl⟩

/-- A chat with a model of which the name cannot be put into a text as it is. -/
def quotedModel : ChatCase := ⟨.claude, .default, "a\"\\\n", .toolUse⟩

theorem prepare_quotedModel :
    ∃ d, Transport.prepare (({} : Config).chatCase quotedModel).request = .ok d := by
  have hkey : Transport.isValue ({} : Config).target.apiKey = true := by decide
  obtain ⟨headers, _, hbuild, _, _⟩ := Transport.build_authHeaders .claude
    (({} : Config).chatCase quotedModel).request.body hkey hkey
  obtain ⟨hread, _⟩ := Config.gateway_default.read_bare ⟨rfl, rfl, rfl⟩
    (tail_chat .claude .default quotedModel.model)
  have hreaches : Transport.Reaches (Config.localGateway.withTail
      (Url.unbroken (Protocol.claude.chatTail .default quotedModel.model))) :=
    ⟨rfl, by decide +kernel⟩
  exact ⟨_, Transport.prepare_eq_ok.mpr ⟨headers, _, hbuild, hread, hreaches, rfl⟩⟩

theorem chat_text_faithful_quoted : ∃ d,
    Transport.prepare (({} : Config).chatCase quotedModel).request = .ok d ∧
      Json.read d.body = .ok (.object (members .claude "a\"\\\n" .toolUse)) := by
  obtain ⟨d, hd⟩ := prepare_quotedModel
  obtain ⟨hsent, hread, _⟩ := chat_text_faithful .claude "a\"\\\n" .toolUse
  refine ⟨d, hd, ?_⟩
  rw [(hsent {} .default).2 d hd, hread]

end Conformance.Payload
