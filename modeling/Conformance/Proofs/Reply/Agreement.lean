import Conformance.Proofs.Reply.Opening
import Conformance.Proofs.Reply.Reference
import Mathlib

/-! On responses of the right shape the typed reader and the plain one come to the same verdict. -/
namespace Conformance.Reply

open Json (has mayHave listOf orNull isString)


/-- A chat that was read says the same as an answer. No text is as good as an empty one. -/
def Agrees (chat : Chat) (a : Answer) : Prop :=
  chat.text.getD "" = a.text ∧ chat.calls = a.calls ∧ chat.said = a.quote

variable {p : Protocol} {e : Expectation} {chat : Chat} {a : Answer} {v : Json}

theorem judgeText_agrees (h : chat.text.getD "" = a.text) :
    Verdict.ofExcept (judgeText chat.text) = a.verdict p .text := by
  cases ht : chat.text with
  | none =>
    rw [ht] at h
    simp only [Answer.verdict, ← h, judgeText]
    rfl
  | some text =>
    rw [ht] at h
    simp only [Answer.verdict, ← h, judgeText, Option.getD_some]
    by_cases he : text = ""
    · simp [he]
      rfl
    · simp [he, Verdict.ofExcept, textPreview]
      rfl

theorem message_noToolCall (said : String) :
    (Complaint.noToolCall (Chat.callField p) said).message =
      Answer.missingMessage p ++ Text.truncate 100 said := by
  cases p <;> rfl

theorem judgeCall_agrees (hc : chat.calls = a.calls) (hq : chat.said = a.quote) :
    Verdict.ofExcept (judgeCall (chat.calls.find? (· = toolName)) (Chat.calledMessage p)
      (Chat.callField p) chat.said) = a.verdict p .toolCall := by
  rw [hc, hq]
  cases hf : a.calls.find? (· = toolName) with
  | none =>
    have hm : "get_weather" ∉ a.calls := by
      intro hm
      simpa [toolName] using List.find?_eq_none.mp hf _ hm
    simp only [Answer.verdict, hm, if_false, judgeCall, Verdict.ofExcept, Complaint.verdict,
      message_noToolCall]
    rfl
  | some name =>
    obtain rfl : name = toolName := by simpa using List.find?_some hf
    have hm : "get_weather" ∈ a.calls := List.mem_of_find?_eq_some hf
    simp only [Answer.verdict, hm, if_true, judgeCall, Verdict.ofExcept]
    cases p <;> rfl

theorem judge_agrees (h : Agrees chat a) : Verdict.ofExcept (chat.judge p e) = a.verdict p e := by
  obtain ⟨ht, hc, hq⟩ := h
  cases e with
  | text => exact judgeText_agrees ht
  | toolCall => exact judgeCall_agrees hc hq

/-! What the typed decoders find, from the innermost outwards. -/

theorem finds_functionCall :
    Json.Finds Chat.functionCall Shape.call fun v => (v.member "name").text :=
  Json.finds_required Json.finds_string

theorem finds_toolCall : Json.Finds Chat.toolCall (has "function" Shape.call)
    fun v => ((v.member "function").member "name").text :=
  Json.finds_required finds_functionCall

/-- The names in a list of calls, if there is one. -/
def callNames? : Json → Option (List String)
  | .array items => some (items.map fun c => ((c.member "function").member "name").text)
  | _ => none

theorem callNames?_getD (v : Json) : (callNames? v).getD [] =
    v.elements.map fun c => ((c.member "function").member "name").text := by
  cases v <;> rfl

theorem finds_callNames : Json.Finds (Json.Decoder.nullable (Json.Decoder.list Chat.toolCall))
    (orNull (listOf (has "function" Shape.call))) callNames? := by
  refine Json.finds_nullable rfl fun v hs h => ?_
  refine ⟨_, Json.finds_list finds_toolCall v hs h, ?_⟩
  cases v with
  | array items => rfl
  | _ => cases h

theorem ofMembers_toolCalls {members : Json.Members} (hs : Json.Sorted (.object members))
    (h : Shape.toolCalls (.object members)) : Chat.toolCalls.ofMembers members =
      .ok (Answer.ofMessage (.object members)).calls := by
  rw [Chat.toolCalls, Json.Record.ofMembers_map,
    Json.defaulted_finds none finds_callNames rfl hs h]
  exact congrArg Except.ok (callNames?_getD _)

theorem finds_nullableText :
    Json.Finds (Json.Decoder.nullable Json.Decoder.string) (orNull isString) Json.text? := by
  refine Json.finds_nullable rfl fun v hs h => ⟨v.text, Json.finds_string v hs h, ?_⟩
  obtain ⟨s, hv⟩ := Option.isSome_iff_exists.mp h
  simp [Json.text, hv]

/-- A message as OpenAI has it, where the text may be null. -/
def messageFound (message : Json) : Chat :=
  let a := Answer.ofMessage message
  ⟨(message.member "content").text?, a.calls, a.quote⟩

theorem finds_assistantMessage : Json.Finds Chat.assistantMessage
    (fun m => mayHave "content" (orNull isString) m && Shape.toolCalls m) messageFound := by
  intro v hs h
  obtain ⟨hc, ht⟩ := Bool.and_eq_true_iff.mp h
  cases v with
  | object members =>
    have hcontent := Json.defaulted_finds none finds_nullableText rfl hs hc
    have hboth := Json.Record.ofMembers_and.mpr ⟨hcontent, ofMembers_toolCalls hs ht⟩
    change Json.Record.ofMembers _ members = _
    rw [Json.Record.ofMembers_map, hboth]
    rfl
  | _ => cases hc

theorem finds_choice : Json.Finds Chat.choice
    (has "message" fun m => mayHave "content" (orNull isString) m && Shape.toolCalls m)
    fun v => messageFound (v.member "message") :=
  Json.finds_required finds_assistantMessage

/-- A message as Ollama has it, where the text is not null. -/
def ownMessageFound (message : Json) : Chat :=
  let a := Answer.ofMessage message
  ⟨some a.text, a.calls, a.quote⟩

theorem finds_ownMessage : Json.Finds Chat.ownMessage Shape.ownMessage ownMessageFound := by
  intro v hs h
  obtain ⟨hc, ht⟩ := Bool.and_eq_true_iff.mp h
  cases v with
  | object members =>
    have hcontent := Json.defaulted_finds "" Json.finds_string rfl hs hc
    have hboth := Json.Record.ofMembers_and.mpr ⟨hcontent, ofMembers_toolCalls hs ht⟩
    change Json.Record.ofMembers _ members = _
    rw [Json.Record.ofMembers_map, hboth]
    rfl
  | _ => cases hc

/-! Gemini's candidates -/

theorem finds_nullableCall : Json.Finds (Json.Decoder.nullable Chat.functionCall)
    (orNull Shape.call) fun v => (v.member "name").text? := by
  refine Json.finds_nullable rfl fun v hs h => ⟨_, finds_functionCall v hs h, ?_⟩
  obtain ⟨_, w, _, _, hm, hw⟩ := Json.object_of_has h
  obtain ⟨s, hv⟩ := Option.isSome_iff_exists.mp hw
  simp [Json.text, hm, hv]

def partFound (part : Json) : Chat.Part :=
  ⟨(part.member "text").text?, ((part.member "functionCall").member "name").text?⟩

theorem finds_part : Json.Finds Chat.part Shape.part partFound := by
  intro v hs h
  obtain ⟨ht, hc⟩ := Bool.and_eq_true_iff.mp h
  cases v with
  | object members =>
    have htext := Json.defaulted_finds none finds_nullableText rfl hs ht
    have hcall := Json.defaulted_finds none finds_nullableCall rfl hs hc
    have hboth := Json.Record.ofMembers_and.mpr ⟨htext, hcall⟩
    change Json.Record.ofMembers _ members = _
    rw [Json.Record.ofMembers_map, hboth]
    rfl
  | _ => cases ht

theorem finds_parts : Json.Finds Chat.parts (mayHave "parts" (listOf Shape.part))
    fun content => (content.member "parts").elements.map partFound := by
  intro v hs h
  cases v with
  | object members => exact Json.defaulted_finds [] (Json.finds_list finds_part) rfl hs h
  | _ => cases h

theorem finds_candidate : Json.Finds Chat.candidate
    (has "content" (mayHave "parts" (listOf Shape.part)))
    fun v => ((v.member "content").member "parts").elements.map partFound :=
  Json.finds_required finds_parts

theorem agrees_ofParts (parts : List Json) :
    Agrees (Chat.ofParts (parts.map partFound)) (Answer.ofParts parts) := by
  have ht : (parts.map partFound).findSome? (·.text) =
      parts.findSome? fun part => (part.member "text").text? := by
    rw [List.findSome?_map]
    rfl
  have hc : (parts.map partFound).filterMap (·.call) =
      parts.filterMap fun part => ((part.member "functionCall").member "name").text? := by
    rw [List.filterMap_map]
    rfl
  refine ⟨?_, hc, ?_⟩
  · simp [Chat.ofParts, Answer.ofParts, ht]
  · simp [Chat.ofParts, Answer.ofParts, ht]

/-! Claude's blocks -/

def blockFound (block : Json) : Chat.Block :=
  if (block.member "type").text = "text" then .text (block.member "text").text
  else if (block.member "type").text = "tool_use" then .toolUse (block.member "name").text
  else .other

theorem findSome?_text (blocks : List Json) : (blocks.map blockFound).findSome? Chat.Block.text? =
    (blocks.find? (Answer.isOfType "text")).map fun block => (block.member "text").text := by
  induction blocks with
  | nil => rfl
  | cons block rest ih =>
    by_cases ht : (block.member "type").text = "text"
    · have hs : (blockFound block).text? = some (block.member "text").text := by
        rw [blockFound, if_pos ht]
        rfl
      simp [Answer.isOfType, ht, hs]
    · have hn : (blockFound block).text? = none := by
        unfold blockFound
        rw [if_neg ht]
        split <;> rfl
      simp [Answer.isOfType, ht, hn, ih]

theorem filterMap_tool (blocks : List Json) : (blocks.map blockFound).filterMap Chat.Block.tool? =
    (blocks.filter (Answer.isOfType "tool_use")).map fun block => (block.member "name").text := by
  induction blocks with
  | nil => rfl
  | cons block rest ih =>
    by_cases ht : (block.member "type").text = "tool_use"
    · simp [blockFound, Answer.isOfType, ht, Chat.Block.tool?, ih]
    · have hn : (blockFound block).tool? = none := by
        unfold blockFound
        rw [if_neg ht]
        split <;> rfl
      simp [Answer.isOfType, ht, hn, ih]

theorem agrees_ofBlocks (blocks : List Json) :
    Agrees (Chat.ofBlocks (blocks.map blockFound)) (Answer.ofBlocks blocks) := by
  refine ⟨?_, filterMap_tool blocks, ?_⟩
  · simp [Chat.ofBlocks, Answer.ofBlocks, findSome?_text]
  · simp [Chat.ofBlocks, Answer.ofBlocks, findSome?_text]

/-- The members of a block beside its type. -/
def fieldsOf (members : Json.Members) : Json.Members := members.filter (·.1 ≠ "type")

theorem sorted_fieldsOf {members : Json.Members} (hs : Json.Sorted (.object members)) :
    Json.Sorted (.object (fieldsOf members)) := by
  cases hs with
  | object ho h => exact .object (ho.filter _) fun m hm => h m (List.mem_filter.mp hm).1

theorem textField_found {members : Json.Members} (hs : Json.Sorted (.object members))
    (h : mayHave "text" isString (.object members)) :
    Chat.textField.ofMembers (fieldsOf members) =
      .ok (Json.member "text" (.object members)).text := by
  have hg := Json.Members.get?_filter_ne (k := "type") (by decide : "text" ≠ "type") members
  have hf : mayHave "text" isString (.object (fieldsOf members)) := by
    simpa only [mayHave, fieldsOf, hg] using h
  rw [Chat.textField, Json.defaulted_finds "" Json.finds_string rfl (sorted_fieldsOf hs) hf]
  simp only [Json.member, fieldsOf, hg]

theorem nameField_found {members : Json.Members} (hs : Json.Sorted (.object members))
    (h : has "name" isString (.object members)) :
    Chat.nameField.ofMembers (fieldsOf members) =
      .ok (Json.member "name" (.object members)).text := by
  obtain ⟨_, w, ⟨⟩, hw, hm, hstr⟩ := Json.object_of_has h
  have hg := Json.Members.get?_filter_ne (k := "type") (by decide : "name" ≠ "type") members
  rw [Chat.nameField, Json.Record.ofMembers_required (sorted_fieldsOf hs).ordered (hg.trans hw), hm]
  exact Json.finds_string w (hs.get? hw) hstr

theorem finds_block : Json.Finds Chat.block Shape.block blockFound := by
  intro v hs h
  simp only [Shape.block, Bool.and_eq_true, Bool.or_eq_true, decide_eq_true_eq] at h
  obtain ⟨⟨htype, htext⟩, hname⟩ := h
  obtain ⟨members, w, rfl, hw, hm, hstr⟩ := Json.object_of_has htype
  have htag : Json.Decoder.tag w = .ok w.text := by
    cases w with
    | string s => rfl
    | _ => cases hstr
  have hread : Chat.block (.object members) = Chat.Block.ofType w.text
      (Chat.textField.ofMembers (fieldsOf members)) (Chat.nameField.ofMembers (fieldsOf members))
      (.ok ()) := by
    simp [Chat.block, hw, htag, fieldsOf, bind, Except.bind]
  rw [hm] at htext hname
  rw [hread]
  by_cases ht : w.text = "text"
  · rw [textField_found hs (htext.resolve_left fun hne => hne ht)]
    simp [Chat.Block.ofType, blockFound, hm, ht, Except.map]
  · by_cases hn : w.text = "tool_use"
    · rw [nameField_found hs (hname.resolve_left fun hne => hne hn)]
      simp [Chat.Block.ofType, blockFound, hm, hn, Except.map]
    · simp [Chat.Block.ofType, blockFound, hm, ht, hn, Except.map]

/-! Every protocol -/

theorem first_found {α : Type} {find : Json → α} (h : v.elements.isEmpty = false) :
    Chat.first p (v.elements.map find) = .ok (find (v.elements.headD .null)) := by
  cases hv : v.elements with
  | nil => simp [hv] at h
  | cons item rest => rfl

/-- In an envelope of the right shape the typed reader finds what the plain one does. -/
theorem typed_agrees (hs : Json.Sorted v) (h : Shape.envelope p v) :
    ∃ chat, Chat.typed p v = .ok (.ok chat) ∧ Agrees chat (Answer.ofEnvelope p v) := by
  cases p with
  | openAI =>
    obtain ⟨hne, hl⟩ := Bool.and_eq_true_iff.mp h
    refine ⟨messageFound ((v.elements.headD .null).member "message"), ?_, rfl, rfl, rfl⟩
    rw [Chat.typed, Json.finds_list finds_choice v hs hl]
    exact congrArg Except.ok (first_found (by simpa using hne))
  | claude =>
    refine ⟨_, ?_, agrees_ofBlocks v.elements⟩
    rw [Chat.typed, Json.finds_list finds_block v hs h]
    rfl
  | gemini =>
    obtain ⟨hne, hl⟩ := Bool.and_eq_true_iff.mp h
    refine ⟨_, ?_, agrees_ofParts _⟩
    rw [Chat.typed, Json.finds_list finds_candidate v hs hl]
    simp only [Except.map, first_found (p := .gemini) (v := v) (by simpa using hne)]
  | ollama =>
    refine ⟨ownMessageFound v, ?_, rfl, rfl, rfl⟩
    rw [Chat.typed, finds_ownMessage v hs h]
    rfl

/-- On a well shaped response the verdict is that of the plain reader. -/
theorem chatVerdict_eq_reference (p : Protocol) (e : Expectation) (body : String) (v : Json)
    (hr : Json.read body = .ok v) (hw : wellShaped p v) :
    chatVerdict p e 200 body = referenceVerdict p e v := by
  obtain ⟨members, w, rfl, hv, hm, hs⟩ := Json.object_of_has hw
  obtain ⟨chat, ht, ha⟩ := typed_agrees ((Json.sorted_read hr).get? hv) hs
  rw [chatVerdict_typed hr hv ht, referenceVerdict, hm]
  exact judge_agrees ha

/-- A call of another tool first, then the declared one in the same candidate. -/
def secondCall : String :=
  "\x7b\"candidates\":[\x7b\"content\":\x7b\"parts\":[" ++
    "\x7b\"functionCall\":\x7b\"name\":\"get_time\"\x7d\x7d," ++
    "\x7b\"functionCall\":\x7b\"name\":\"get_weather\"\x7d\x7d]\x7d\x7d]\x7d"

theorem chatVerdict_eq_reference_second_call :
    chatVerdict .gemini .toolCall 200 secondCall =
      .pass "Function Call OK" (.toolCall "get_weather") := by
  have hr : Json.read secondCall =
    .ok (.object [("candidates", .array [.object [("content", .object [("parts", .array [
      .object [("functionCall", .object [("name", .string "get_time")])],
      .object [("functionCall", .object [("name", .string "get_weather")])]])])]])]) := by cbv
  rw [chatVerdict_eq_reference .gemini .toolCall _ _ hr (by decide)]
  decide

end Conformance.Reply
