import Conformance.Proofs.Json.Wording
import Conformance.Proofs.Reply.Opened
import Conformance.Sweep.Case

/-! Messages on one line. Most wordings are, whatever the gateway said; two pass on what it said as
it stands: the body of a response that was no success, and the words in the place of a tool call. -/
namespace Conformance

open Json (Decoder Record)
open Outcome (FailsBy)
open Text (OneLine oneLine_append oneLine_nat oneLine_int oneLine_snippet)

theorem Protocol.oneLine_displayName (p : Protocol) : OneLine p.displayName := by
  cases p <;> decide

namespace Complaint

variable {p q : Protocol} {field subject : String}

/-- A complaint that is told on one line. -/
def Plain (c : Complaint) : Prop := OneLine c.message

theorem plain_notJson (cause : Json.SyntaxError) : (notJson p cause).Plain :=
  .append (.append (.append (by decide) p.oneLine_displayName) (by decide)) cause.oneLine_message

theorem plain_notObject (found : Json) : (notObject p found).Plain := by
  have hkind : OneLine found.kind := by cases found <;> simp only [Json.kind] <;> decide
  exact .append (.append (.append (by decide) p.oneLine_displayName) (by decide)) hkind

theorem plain_missing (hf : OneLine field) (hs : OneLine subject) : (missing field subject).Plain :=
  .append (.append (.append (by decide) hf) (by decide)) hs

theorem plain_foreign : (foreign q p).Plain :=
  .append (.append (.append (by decide) q.oneLine_displayName) (by decide))
    (.append (by decide) p.oneLine_displayName)

theorem plain_malformed {cause : Json.DecodeError} (h : cause.Plain) : (malformed p cause).Plain :=
  .append (.append (.append (by decide) p.oneLine_displayName) (by decide)) h

theorem plain_emptyList (hf : OneLine field) (hs : OneLine subject) :
    (emptyList field subject).Plain :=
  .append (.append (.append (by decide) hf) (by decide)) hs

end Complaint

namespace Reply

open Complaint

variable {p : Protocol} {status : Int} {body : String} {members : Json.Members}

theorem oneLine_envelopeField (p : Protocol) : OneLine p.envelopeField := by
  cases p <;> decide

theorem oneLine_response (p : Protocol) : OneLine (p.displayName ++ " response") :=
  .append p.oneLine_displayName (by decide)

/-! ### Opening a response -/

theorem object_plain (p : Protocol) (body : String) :
    FailsBy Complaint.Plain (object p 200 body) := by
  simp only [object]
  split
  · contradiction
  · split
    · contradiction
    · split
      · exact .ok _
      · exact .error (plain_notObject _)
      · exact .error (plain_notJson _)

theorem envelope_plain (p : Protocol) (body : String) :
    FailsBy Complaint.Plain (envelope p 200 body) := by
  refine (object_plain p body).bind fun members => ?_
  split
  · exact .ok members
  · split
    · exact .error plain_foreign
    · exact .error (plain_missing (oneLine_envelopeField p) (oneLine_response p))

theorem decode_plain {α : Type} {r : Record α} (h : r.Plain) (members : Json.Members) :
    FailsBy Complaint.Plain (decode p r members) :=
  (h.ofMembers members).mapError fun _ => plain_malformed

/-! ### Chat responses -/

namespace Chat

theorem plain_functionCall : functionCall.Plain :=
  (Record.plain_required (by decide) Decoder.plain_string).decoder (by decide)

theorem plain_toolCall : toolCall.Plain :=
  (Record.plain_required (by decide) plain_functionCall).decoder (by decide)

theorem plain_toolCalls : toolCalls.Plain :=
  (Record.plain_defaulted (by decide)
    (Decoder.plain_nullable (Decoder.plain_list plain_toolCall)) none).map

theorem plain_choices : choices.Plain := by
  have hcontent := Record.plain_defaulted (by decide : OneLine "content")
    (Decoder.plain_nullable Decoder.plain_string) none
  have hmessage : assistantMessage.Plain := (hcontent.and plain_toolCalls).map.decoder (by decide)
  have hchoice : choice.Plain := (Record.plain_required (by decide) hmessage).decoder (by decide)
  exact Record.plain_required (by decide) (Decoder.plain_list hchoice)

theorem plain_message : message.Plain := by
  have hcontent := Record.plain_defaulted (by decide : OneLine "content") Decoder.plain_string ""
  have hmessage : ownMessage.Plain := (hcontent.and plain_toolCalls).map.decoder (by decide)
  exact Record.plain_required (by decide) hmessage

theorem plain_candidates : candidates.Plain := by
  have htext := Record.plain_defaulted (by decide : OneLine "text")
    (Decoder.plain_nullable Decoder.plain_string) none
  have hcall := Record.plain_defaulted (by decide : OneLine "functionCall")
    (Decoder.plain_nullable plain_functionCall) none
  have hpart : part.Plain := (htext.and hcall).map.decoder (by decide)
  have hparts : parts.Plain :=
    (Record.plain_defaulted (by decide) (Decoder.plain_list hpart) []).decoder (by decide)
  have hcandidate : candidate.Plain :=
    (Record.plain_required (by decide) hparts).decoder (by decide)
  exact Record.plain_required (by decide) (Decoder.plain_list hcandidate)

theorem plain_textField : textField.Plain :=
  Record.plain_defaulted (by decide) Decoder.plain_string ""

theorem plain_nameField : nameField.Plain :=
  Record.plain_required (by decide) Decoder.plain_string

theorem Block.ofType_plain {type : String} {text tool : Except Json.DecodeError String}
    {other : Except Json.DecodeError Unit} (htext : FailsBy Json.DecodeError.Plain text)
    (htool : FailsBy Json.DecodeError.Plain tool) (hother : FailsBy Json.DecodeError.Plain other) :
    FailsBy Json.DecodeError.Plain (ofType type text tool other) := by
  unfold ofType
  split
  · exact htext.map
  · split
    · exact htool.map
    · exact hother.map

theorem plain_block : block.Plain := by
  intro v
  cases v with
  | object members =>
    simp only [block]
    split
    · refine (Decoder.plain_tag _).bind fun type => ?_
      exact Block.ofType_plain (plain_textField.ofMembers _) (plain_nameField.ofMembers _) (.ok ())
    · exact .error (Json.DecodeError.plain_missingField (by decide))
  | array items =>
    cases items with
    | nil => exact .error (Json.DecodeError.plain_missingField (by decide))
    | cons type items =>
      refine (Decoder.plain_tag type).bind fun type => ?_
      refine Block.ofType_plain (plain_textField.ofRest (by decide) items)
        (plain_nameField.ofRest (by decide) items) ?_
      split
      · exact .ok ()
      · exact .error (Json.DecodeError.plain_invalidLength (by decide) _)
  | _ => exact .error (Json.DecodeError.plain_invalidType (by decide))

theorem first_plain {α : Type} (p : Protocol) (answers : List α) :
    FailsBy Complaint.Plain (first p answers) := by
  cases answers with
  | nil => exact .error (plain_emptyList (oneLine_envelopeField p) (oneLine_response p))
  | cons answer rest => exact .ok answer

theorem ofMembers_plain (p : Protocol) (members : Json.Members) :
    FailsBy Complaint.Plain (ofMembers p members) := by
  cases p with
  | openAI => exact (decode_plain plain_choices members).bind fun _ => first_plain _ _
  | claude =>
    exact (decode_plain (Record.plain_required (by decide) (Decoder.plain_list plain_block))
      members).map
  | gemini =>
    exact (decode_plain plain_candidates members).bind fun _ =>
      (first_plain _ _).bind fun _ => .ok _
  | ollama => exact decode_plain plain_message members

end Chat

theorem opened_plain (p : Protocol) (body : String) :
    FailsBy Complaint.Plain (opened p 200 body) :=
  (envelope_plain p body).bind fun members => Chat.ofMembers_plain p members

/-! ### Listings and embeddings -/

theorem withOneOf_plain {fields : List String} {subject : String}
    (hf : ∀ field ∈ fields, OneLine field) (hs : OneLine subject) (members : Json.Members) :
    FailsBy Complaint.Plain (withOneOf fields subject members) := by
  have hhead : OneLine (fields.headD "") := by
    cases fields with
    | nil => decide
    | cons field rest => exact hf field List.mem_cons_self
  unfold withOneOf
  split
  · exact .ok ()
  · exact .error (plain_missing hhead hs)

namespace Catalogue

theorem plain_models (c : Catalogue) : c.models.Plain := by
  have hvalues := Decoder.plain_list Decoder.plain_value
  cases c with
  | openAI => exact Record.plain_required (by decide) hvalues
  | gemini => exact Record.plain_defaulted (by decide) hvalues []
  | ollama => exact Record.plain_required (by decide) hvalues

theorem plain_embedding (c : Catalogue) : c.embedding.Plain := by
  have hvector : vector.Plain := Decoder.plain_list Decoder.plain_number
  cases c with
  | openAI =>
    exact (Record.plain_required (by decide) (Decoder.plain_list
      ((Record.plain_required (by decide) hvector).decoder (by decide)))).map
  | gemini =>
    exact Record.plain_required (by decide)
      ((Record.plain_required (by decide) hvector).decoder (by decide))
  | ollama =>
    have hvectors := Record.plain_defaulted (by decide : OneLine "embeddings")
      (Decoder.plain_nullable (Decoder.plain_list hvector)) none
    have hsingle := Record.plain_defaulted (by decide : OneLine "embedding")
      (Decoder.plain_nullable hvector) none
    exact (hvectors.and hsingle).map

end Catalogue

end Reply

/-! ### Every check -/

open Reply

/-- What the message of a verdict passes on as the gateway said it. -/
inductive Check.Quotes (status : Int) (body : String) : Check → String → Prop where
  | body {check : Check} (hs : status ≠ 200) : Quotes status body check body
  | said {p : Protocol} {chat : Chat} (hs : status = 200) (ho : opened p status body = .ok chat)
    (hc : toolName ∉ chat.calls) : Quotes status body (.chat p .toolCall) chat.said

variable {check : Check} {status : Int} {body : String}

theorem oneLine_ofExcept {x : Except Complaint Verdict} (h : FailsBy Complaint.Plain x)
    (hv : ∀ v, x = .ok v → OneLine v.message) : OneLine (Verdict.ofExcept x).message := by
  cases x with
  | error c => exact h c rfl
  | ok v => exact hv v rfl

/-- The complaint about a response that is no success, or about none at all. -/
def unanswered (status : Int) (body : String) : Complaint :=
  if status = noResponse then .noResponse body else .badStatus status body

theorem object_of_ne_200 (hs : status ≠ 200) (p : Protocol) :
    object p status body = .error (unanswered status body) := by
  unfold object unanswered
  split
  · rfl
  · rfl

theorem verdict_of_ne_200 (hs : status ≠ 200) (check : Check) :
    check.verdict status body = (unanswered status body).verdict := by
  cases check with
  | chat p e =>
    simp only [Check.verdict, chatVerdict, envelope, object_of_ne_200 hs]
    rfl
  | models c =>
    simp only [Check.verdict, modelsVerdict, object_of_ne_200 hs]
    rfl
  | embedding c =>
    simp only [Check.verdict, embeddingVerdict, object_of_ne_200 hs]
    rfl

theorem oneLine_unanswered :
    OneLine (unanswered status body).message ↔ OneLine (Text.truncate bodyPreview body) := by
  unfold unanswered
  split
  · exact oneLine_append.trans (and_iff_right (by decide))
  · have hhead : OneLine (toString "HTTP " ++ toString status ++ toString ": ") :=
      .append (.append (by decide) (oneLine_int status)) (by decide)
    exact oneLine_append.trans (and_iff_right hhead)

theorem oneLine_noToolCall (p : Protocol) (said : String) :
    OneLine (Complaint.noToolCall (Chat.callField p) said).message ↔
      OneLine (Text.truncate bodyPreview said) := by
  have hfield : OneLine (Chat.callField p) := by cases p <;> decide
  have hhead : OneLine (toString (Chat.callField p) ++ toString " missing. Model said: ") :=
    .append hfield (by decide)
  exact oneLine_append.trans (and_iff_right hhead)

/-- The text that a passing message shows was flattened. -/
theorem oneLine_judgeText (text : Option String) :
    OneLine (Verdict.ofExcept (judgeText text)).message := by
  have hempty : OneLine "Empty content" := by decide
  unfold judgeText
  split
  · exact hempty
  · split
    · exact hempty
    · exact .append (.append (by decide) (oneLine_snippet _ _)) (by decide)

theorem oneLine_judgeCall (p : Protocol) (chat : Chat) :
    OneLine (Verdict.ofExcept (chat.judge p .toolCall)).message ↔
      (toolName ∉ chat.calls → OneLine (Text.truncate bodyPreview chat.said)) := by
  have hcalled : OneLine (Chat.calledMessage p) := by cases p <;> decide
  simp only [Chat.judge]
  cases hf : chat.calls.find? (· = toolName) with
  | some tool =>
    have hm : toolName ∈ chat.calls := by
      have ht := List.find?_some hf
      exact of_decide_eq_true ht ▸ List.mem_of_find?_eq_some hf
    exact iff_of_true hcalled fun hn => absurd hm hn
  | none =>
    have hn : toolName ∉ chat.calls := fun hm => List.find?_eq_none.mp hf toolName hm (by decide)
    exact (oneLine_noToolCall p chat.said).trans ⟨fun h _ => h, fun h => h hn⟩

theorem oneLine_models (c : Catalogue) (body : String) :
    OneLine (modelsVerdict c 200 body).message := by
  have hfields : ∀ field ∈ [c.modelField], OneLine field := by cases c <;> decide
  have hname : OneLine c.listName := by cases c <;> decide
  refine oneLine_ofExcept ?_ fun v hv => ?_
  · exact (object_plain _ body).bind fun members => (withOneOf_plain hfields hname members).bind
      fun _ => (decode_plain c.plain_models members).bind fun _ => .ok _
  · simp only [Outcome.bind_eq_ok] at hv
    obtain ⟨_, _, _, _, models, _, hv⟩ := hv
    cases hv
    exact .append (.append (.append (.append (by decide) (oneLine_int 200)) (by decide))
      (oneLine_nat models.length)) (by decide)

theorem oneLine_embedding (c : Catalogue) (body : String) :
    OneLine (embeddingVerdict c 200 body).message := by
  have hfields : ∀ field ∈ c.embeddingFields, OneLine field := by cases c <;> decide
  have hname : OneLine (c.protocol.displayName ++ " embedding response") :=
    .append c.protocol.oneLine_displayName (by decide)
  refine oneLine_ofExcept ?_ fun v hv => ?_
  · refine (object_plain _ body).bind fun members => (withOneOf_plain hfields hname members).bind
      fun _ => (decode_plain c.plain_embedding members).bind fun vector => ?_
    split
    · exact .error (by decide : OneLine "Empty embedding")
    · exact .ok _
  · simp only [Outcome.bind_eq_ok] at hv
    obtain ⟨_, _, _, _, vector, _, hv⟩ := hv
    split at hv
    · cases hv
    · cases hv
      exact .append (.append (by decide) (oneLine_nat vector.length)) (by decide)

theorem oneLine_chat (p : Protocol) (e : Expectation) (body : String) :
    OneLine (chatVerdict p e 200 body).message ↔
      ∀ words, (Check.chat p e).Quotes 200 body words →
        OneLine (Text.truncate bodyPreview words) := by
  cases ho : opened p 200 body with
  | error c =>
    rw [chatVerdict_of_unopened ho]
    refine iff_of_true (opened_plain p body c ho) fun words hq => ?_
    cases hq with
    | body hs => contradiction
    | said _ ho' _ => cases ho.symm.trans ho'
  | ok chat =>
    rw [chatVerdict_of_opened ho]
    cases e with
    | text =>
      refine iff_of_true (oneLine_judgeText chat.text) fun words hq => ?_
      cases hq
      contradiction
    | toolCall =>
      refine (oneLine_judgeCall p chat).trans ⟨fun h words hq => ?_, fun h hn => ?_⟩
      · cases hq with
        | body hs => contradiction
        | said _ ho' hn =>
          cases ho.symm.trans ho'
          exact h hn
      · exact h chat.said (.said rfl ho hn)

/-- A message is on one line if and only if what it passes on is, as far as it is shown. -/
theorem oneLine_message_iff (check : Check) (status : Int) (body : String) :
    OneLine (check.verdict status body).message ↔
      ∀ words, check.Quotes status body words → OneLine (Text.truncate bodyPreview words) := by
  by_cases hs : status = 200
  · subst hs
    cases check with
    | chat p e => exact oneLine_chat p e body
    | models c =>
      refine iff_of_true (oneLine_models c body) fun words hq => ?_
      cases hq
      contradiction
    | embedding c =>
      refine iff_of_true (oneLine_embedding c body) fun words hq => ?_
      cases hq
      contradiction
  · rw [verdict_of_ne_200 hs]
    refine oneLine_unanswered.trans ⟨fun h words hq => ?_, fun h => h body (.body hs)⟩
    cases hq with
    | body _ => exact h
    | said hs' _ _ => exact absurd hs' hs

end Conformance
