import Conformance.Log.Entry
import Conformance.Protocol.Basic
import Conformance.Protocol.Route
import Conformance.Request.Basic
import Conformance.Url.Reader

/-!
Where requests go and how they are let in. Gemini names the model in the path and takes the key as
a query parameter; the other protocols take the key in a header.
-/

namespace Conformance

namespace Gemini

/-- Puts the key after the parameters of a URL, so that a form decoder gets exactly the key. Text
that is no URL stays as it is, and the log tells why. -/
def attach (url key : String) : String × Option Log.Entry :=
  match Url.read url with
  | .ok u => ((u.withPair "key" key).text, none)
  | .error cause => (url, some ⟨.debug, Log.targetOf "protocol::gemini", [
      ("message", .string "Cannot attach Gemini key to URL"), ("url", .string url),
      ("error", .string cause.message)]⟩)

def keyed (url key : String) : String := (attach url key).1

def generateUrl (base route model key : String) : String :=
  keyed (base ++ route ++ "/v1beta/models/" ++ model ++ ":generateContent") key

def embedUrl (base model key : String) : String :=
  keyed (base ++ "/v1beta/models/" ++ model ++ ":embedContent") key

def modelsUrl (base key : String) : String :=
  keyed (base ++ "/v1beta/models") key

end Gemini

namespace Protocol

/-- The URL of a chat request. -/
def chatUrl (p : Protocol) (base : String) (route : Route) (model key : String) : String :=
  match p with
  | gemini => Gemini.generateUrl base route.path model key
  | _ => base ++ route.path ++ p.chatEndpoint

/-- The version of its interface that Claude is asked for. -/
def claudeVersion : String := "2023-06-01"

/-- The headers that carry the key. -/
def authHeaders (p : Protocol) (key : String) : Headers :=
  match p with
  | openAI => [("Authorization", "Bearer " ++ key)]
  | ollama => [("Authorization", "Bearer " ++ key)]
  | claude => [("anthropic-version", claudeVersion), ("x-api-key", key)]
  | gemini => []

end Protocol

end Conformance
