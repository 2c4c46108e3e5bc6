import Conformance.Proofs.Json.Shape
import Conformance.Reply.Complaint

/-! A plain reader of chat responses: what it looks at, and the responses it is meant for. -/
namespace Conformance.Reply

open Json (has mayHave listOf orNull isString)

/-! ### Shapes -/

namespace Shape

def call : Json → Bool := has "name" isString

def toolCalls : Json → Bool :=
  mayHave "tool_calls" (orNull (listOf (has "function" call)))

/-- The first choice must exist, but all of them must have the shape. -/
def choices (v : Json) : Bool :=
  !v.elements.isEmpty &&
    listOf (has "message" fun m => mayHave "content" (orNull isString) m && toolCalls m) v

def ownMessage (v : Json) : Bool :=
  mayHave "content" isString v && toolCalls v

def part (v : Json) : Bool :=
  mayHave "text" (orNull isString) v && mayHave "functionCall" (orNull call) v

def candidates (v : Json) : Bool :=
  !v.elements.isEmpty && listOf (has "content" (mayHave "parts" (listOf part))) v

/-- Only blocks of the two known types must have more than a type. -/
def block (v : Json) : Bool :=
  has "type" isString v &&
    ((v.member "type").text ≠ "text" || mayHave "text" isString v) &&
    ((v.member "type").text ≠ "tool_use" || has "name" isString v)

def envelope : Protocol → Json → Bool
  | .openAI => choices
  | .claude => listOf block
  | .gemini => candidates
  | .ollama => ownMessage

end Shape

/-- An object with an envelope in which everything that is read has its shape. -/
def wellShaped (p : Protocol) : Json → Bool :=
  has p.envelopeField (Shape.envelope p)

/-! ### The reader -/

/-- What a response amounts to: the assistant's text, the tools called, and what is quoted where
the right one is not among them. -/
structure Answer where
  text : String
  calls : List String
  quote : String
deriving DecidableEq, Repr

namespace Answer

/-- Text and calls of an assistant's message. -/
def ofMessage (message : Json) : Answer :=
  let text := (message.member "content").text
  ⟨text, (message.member "tool_calls").elements.map fun c =>
    ((c.member "function").member "name").text, text⟩

/-- The first part with text gives the text. -/
def ofParts (parts : List Json) : Answer :=
  let text := (parts.findSome? fun part => (part.member "text").text?).getD ""
  ⟨text, parts.filterMap fun part => ((part.member "functionCall").member "name").text?,
    if parts.isEmpty then "Empty" else text⟩

def isOfType (type : String) (block : Json) : Bool :=
  (block.member "type").text = type

/-- The first text block gives the text, even if it is empty. -/
def ofBlocks (blocks : List Json) : Answer :=
  let text := ((blocks.find? (isOfType "text")).map fun block => (block.member "text").text).getD ""
  ⟨text, (blocks.filter (isOfType "tool_use")).map fun block => (block.member "name").text,
    if blocks.isEmpty then "Empty" else text⟩

/-- Looks at the first choice or candidate only, and in it only at text and calls. -/
def ofEnvelope (p : Protocol) (envelope : Json) : Answer :=
  match p with
  | .openAI => ofMessage ((envelope.elements.headD .null).member "message")
  | .claude => ofBlocks envelope.elements
  | .gemini =>
    ofParts (((envelope.elements.headD .null).member "content").member "parts").elements
  | .ollama => ofMessage envelope

def calledMessage : Protocol → String
  | .openAI => "Tool Call OK"
  | .claude => "Tool Use OK"
  | .gemini => "Function Call OK"
  | .ollama => "Tool Call OK"

def missingMessage : Protocol → String
  | .openAI => "tool_calls missing. Model said: "
  | .claude => "tool_use missing. Model said: "
  | .gemini => "functionCall missing. Model said: "
  | .ollama => "tool_calls missing. Model said: "

/-- Any text passes a text request, and only a call of the declared tool a tool request. -/
def verdict (p : Protocol) (e : Expectation) (a : Answer) : Verdict :=
  match e with
  | .text =>
    if a.text = "" then .fail .semantic "Empty content"
    else .pass ("Text: " ++ Text.snippet 25 a.text ++ "...") (.text a.text)
  | .toolCall =>
    if "get_weather" ∈ a.calls then .pass (calledMessage p) (.toolCall "get_weather")
    else .fail .semantic (missingMessage p ++ Text.truncate 100 a.quote)

end Answer

/-- The verdict of the plain reader. -/
def referenceVerdict (p : Protocol) (e : Expectation) (response : Json) : Verdict :=
  (Answer.ofEnvelope p (response.member p.envelopeField)).verdict p e

end Conformance.Reply
