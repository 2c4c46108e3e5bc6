import Conformance.Reply.Envelope

/-!
Chat responses. Each protocol has its own envelope; all are read into the same `Chat`: the text of
the answer, the tools called, and what the model is quoted with when it called no tool. Every
element of every list is read, though only the first choice or candidate counts.
-/

namespace Conformance.Reply

open Json (Decoder Record)

structure Chat where
  text : Option String
  calls : List String
  said : String
deriving DecidableEq, Repr

/-- The tool that requests declare. -/
def toolName : String := "get_weather"

namespace Chat

def functionCall : Decoder String :=
  (Record.required "name" Decoder.string).decoder "struct FunctionCall"

def toolCall : Decoder String :=
  (Record.required "function" functionCall).decoder "struct ToolCall"

def toolCalls : Record (List String) :=
  (Record.defaulted "tool_calls" (Decoder.nullable (Decoder.list toolCall)) none).map (·.getD [])

/-! ### OpenAI -/

def assistantMessage : Decoder Chat :=
  ((Record.defaulted "content" (Decoder.nullable Decoder.string) none).and toolCalls
    |>.map fun (content, calls) => ⟨content, calls, content.getD ""⟩)
    |>.decoder "struct AssistantMessage"

def choice : Decoder Chat :=
  (Record.required "message" assistantMessage).decoder "struct Choice"

def choices : Record (List Chat) :=
  .required "choices" (Decoder.list choice)

/-! ### Claude -/

inductive Block where
  | text (content : String)
  | toolUse (name : String)
  | other
deriving DecidableEq, Repr

/-- A block of one of the two known types, or another one, which is not looked into. -/
def Block.ofType (type : String) (text tool : Except Json.DecodeError String)
    (other : Except Json.DecodeError Unit) : Except Json.DecodeError Block :=
  if type = "text" then text.map .text
  else if type = "tool_use" then tool.map .toolUse
  else other.map fun _ => .other

def textField : Record String :=
  .defaulted "text" Decoder.string ""

def nameField : Record String :=
  .required "name" Decoder.string

/-- The type is a member of its own, or the first element. -/
def block : Decoder Block
  | .object members => do
    let some type := Json.Members.get? members "type" | .error (.missingField "type")
    let fields := members.filter (·.1 ≠ "type")
    Block.ofType (← Decoder.tag type) (textField.ofMembers fields) (nameField.ofMembers fields)
      (.ok ())
  | .array [] => .error (.missingField "type")
  | .array (type :: items) => do
    Block.ofType (← Decoder.tag type)
      (textField.ofRest "struct variant ContentBlock::Text" items)
      (nameField.ofRest "struct variant ContentBlock::ToolUse" items)
      (if items.isEmpty then .ok ()
        else .error (.invalidLength items.length "0 elements in sequence"))
  | other => .error (.invalidType other "internally tagged enum ContentBlock")

def content : Record (List Block) :=
  .required "content" (Decoder.list block)

def Block.text? : Block → Option String
  | .text content => some content
  | _ => none

def Block.tool? : Block → Option String
  | .toolUse name => some name
  | _ => none

def ofBlocks (blocks : List Block) : Chat :=
  let text := blocks.findSome? Block.text?
  ⟨text, blocks.filterMap Block.tool?, if blocks.isEmpty then "Empty" else text.getD ""⟩

/-! ### Gemini -/

structure Part where
  text : Option String
  call : Option String
deriving DecidableEq, Repr

def part : Decoder Part :=
  ((Record.defaulted "text" (Decoder.nullable Decoder.string) none)
    |>.and (.defaulted "functionCall" (Decoder.nullable functionCall) none)
    |>.map fun (text, call) => ⟨text, call⟩)
    |>.decoder "struct ResponsePart"

def parts : Decoder (List Part) :=
  (Record.defaulted "parts" (Decoder.list part) []).decoder "struct CandidateContent"

def candidate : Decoder (List Part) :=
  (Record.required "content" parts).decoder "struct Candidate"

def candidates : Record (List (List Part)) :=
  .required "candidates" (Decoder.list candidate)

def ofParts (parts : List Part) : Chat :=
  let text := parts.findSome? (·.text)
  ⟨text, parts.filterMap (·.call), if parts.isEmpty then "Empty" else text.getD ""⟩

/-! ### Ollama -/

def ownMessage : Decoder Chat :=
  ((Record.defaulted "content" Decoder.string "").and toolCalls
    |>.map fun (content, calls) => ⟨some content, calls, content⟩)
    |>.decoder "struct Message"

def message : Record Chat :=
  .required "message" ownMessage

/-! ### Every protocol -/

/-- The only or first answer of a list that must not be empty. -/
def first {α : Type} (p : Protocol) : List α → Except Complaint α
  | [] => .error (.emptyList p.envelopeField (p.displayName ++ " response"))
  | answer :: _ => .ok answer

/-- Reads an opened chat response. -/
def ofMembers (p : Protocol) (members : Json.Members) : Except Complaint Chat :=
  match p with
  | .openAI => do first p (← decode p choices members)
  | .claude => (decode p content members).map ofBlocks
  | .gemini => do
    let answer ← first p (← decode p candidates members)
    pure (ofParts answer)
  | .ollama => decode p message members

/-- What a verdict says when the tool was called. -/
def calledMessage : Protocol → String
  | .openAI => "Tool Call OK"
  | .claude => "Tool Use OK"
  | .gemini => "Function Call OK"
  | .ollama => "Tool Call OK"

/-- Where a protocol keeps tool calls, as a complaint names it. -/
def callField : Protocol → String
  | .openAI => "tool_calls"
  | .claude => "tool_use"
  | .gemini => "functionCall"
  | .ollama => "tool_calls"

end Chat

/-- A response passes on any text but the empty one. -/
def judgeText : Option String → Except Complaint Verdict
  | none => .error .emptyContent
  | some text =>
    if text.isEmpty then .error .emptyContent
    else .ok (.pass s!"Text: {Text.snippet textPreview text}..." (.text text))

/-- A response passes on a tool call whatever else it says. -/
def judgeCall (called : Option String) (calledMessage callField said : String) :
    Except Complaint Verdict :=
  match called with
  | some tool => .ok (.pass calledMessage (.toolCall tool))
  | none => .error (.noToolCall callField said)

def Chat.judge (p : Protocol) (expectation : Expectation) (chat : Chat) :
    Except Complaint Verdict :=
  match expectation with
  | .text => judgeText chat.text
  | .toolCall =>
    judgeCall (chat.calls.find? (· = toolName)) (Chat.calledMessage p) (Chat.callField p) chat.said

/-- The verdict on a chat response. -/
def chatVerdict (p : Protocol) (expectation : Expectation) (status : Int) (body : String) :
    Verdict :=
  .ofExcept do
    let members ← envelope p status body
    let chat ← Chat.ofMembers p members
    chat.judge p expectation

end Conformance.Reply
