import Conformance.Json.Decode
import Conformance.Text.Blank

/-!
The four chat protocols a gateway speaks, and the two kinds of chat request made in each of them.
-/

namespace Conformance

inductive Protocol where
  | openAI
  | claude
  | gemini
  | ollama
deriving DecidableEq, Repr

namespace Protocol

/-- Every protocol, in the order in which they are tried. -/
def all : List Protocol := [openAI, claude, ollama, gemini]

theorem mem_all (p : Protocol) : p ∈ all := by
  cases p <;> decide

def name : Protocol → String
  | openAI => "openai"
  | claude => "claude"
  | gemini => "gemini"
  | ollama => "ollama"

def displayName : Protocol → String
  | openAI => "OpenAI"
  | claude => "Claude"
  | gemini => "Gemini"
  | ollama => "Ollama"

/-- The path of the chat endpoint below the route. Gemini's goes on with model and action. -/
def chatEndpoint : Protocol → String
  | openAI => "/v1/chat/completions"
  | claude => "/v1/messages"
  | gemini => "/v1beta/models"
  | ollama => "/api/chat"

/-- The member of a chat response that carries the result. -/
def envelopeField : Protocol → String
  | openAI => "choices"
  | claude => "content"
  | gemini => "candidates"
  | ollama => "message"

/-- What the value of the envelope field must be for the object to look like this protocol. -/
def looksNative : Protocol → Json → Bool
  | claude, .array _ => true
  | claude, _ => false
  | ollama, .object _ => true
  | ollama, _ => false
  | openAI, _ => true
  | gemini, _ => true

def hasSignature (p : Protocol) (members : Json.Members) : Bool :=
  (members.get? p.envelopeField).any p.looksNative

/-- Names and vendor names, each with the protocol it stands for. -/
def aliases : List (String × Protocol) :=
  [("openai", openAI), ("claude", claude), ("anthropic", claude), ("gemini", gemini),
    ("google", gemini), ("ollama", ollama)]

/-- Reads a name or vendor name as it is spelt. -/
def ofName? (text : String) : Option Protocol :=
  aliases.lookup text

/-- Reads a name or vendor name in any capitalisation. -/
def parse (text : String) : Except String Protocol :=
  match ofName? (Text.lowerAscii text) with
  | some p => .ok p
  | none => .error ("Unknown protocol: " ++ text)

def decoder : Json.Decoder Protocol :=
  .variant [("openai", openAI), ("claude", claude), ("gemini", gemini), ("ollama", ollama)]

end Protocol

/-- The kind of a chat request: a greeting, or a question with a tool to answer it. -/
inductive Scenario where
  | text
  | toolUse
deriving DecidableEq, Repr

namespace Scenario

def all : List Scenario := [text, toolUse]

def isTool : Scenario → Bool
  | text => false
  | toolUse => true

def label : Scenario → String
  | text => "Text"
  | toolUse => "Tool"

def name : Scenario → String
  | text => "text"
  | toolUse => "tool_use"

def decoder : Json.Decoder Scenario :=
  .variant [("text", text), ("tool_use", toolUse)]

end Scenario

end Conformance
