import Conformance.Protocol.Basic
import Conformance.Reply.Chat

/-!
The bodies of requests. All four protocols declare the same tool, each in its own shape.
-/

namespace Conformance.Payload

def toolDescription : String := "Get the current weather for a specific location"

def embedInput : String := "hello"

def prompt : Scenario → String
  | .text => "Hello, say 'Hi'"
  | .toolUse => "Get weather for New York. Use the get_weather tool."

/-- The tool takes one string. -/
def toolSchema : Json :=
  Json.canonical <| .object [
    ("type", .string "object"),
    ("properties", .object [
      ("loc", .object [
        ("type", .string "string"),
        ("description", .string "The city and state, e.g. New York, NY")])]),
    ("required", Json.ofStrings ["loc"])]

/-- The tool under the name that the protocol gives its schema. -/
def toolDeclaration (schemaName : String) : Json :=
  .object [("name", .string Reply.toolName), ("description", .string toolDescription),
    (schemaName, toolSchema)]

/-- The tools that a protocol's request declares. -/
def tools : Protocol → Json
  | .openAI => .array [.object [
      ("type", .string "function"), ("function", toolDeclaration "parameters")]]
  | .claude => .array [toolDeclaration "input_schema"]
  | .gemini => .array [.object [("functionDeclarations", .array [toolDeclaration "parameters"])]]
  | .ollama => .array [.object [
      ("type", .string "function"), ("function", toolDeclaration "parameters")]]

/-- The members before the tools. -/
def conversation (p : Protocol) (model : String) (scenario : Scenario) : List (String × Json) :=
  let text := Json.string (prompt scenario)
  let messages := Json.array [.object [("role", .string "user"), ("content", text)]]
  match p with
  | .claude => [("model", .string model), ("max_tokens", .ofNat 1024), ("messages", messages),
      ("stream", .bool false)]
  | .gemini => [("contents", .array [.object [
      ("role", .string "user"), ("parts", .array [.object [("text", text)]])]])]
  | _ => [("model", .string model), ("messages", messages), ("stream", .bool false)]

/-- A chat request; tools are declared only where one is to be used. -/
def chat (p : Protocol) (model : String) (scenario : Scenario) : Json :=
  .object (conversation p model scenario ++ if scenario.isTool then [("tools", tools p)] else [])

/-- An embedding request in the shape that OpenAI and Ollama share. -/
def embedding (model : String) : Json :=
  .object [("model", .string model), ("input", .string embedInput)]

def geminiEmbedding : Json :=
  .object [("content", .object [
    ("parts", .array [.object [("text", .string embedInput)]])])]

end Conformance.Payload
