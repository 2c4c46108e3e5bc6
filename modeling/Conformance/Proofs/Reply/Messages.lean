import Conformance.Proofs.Json.Paired
import Conformance.Proofs.Json.Written
import Conformance.Proofs.Reply.Agreement
import Conformance.Proofs.Reply.Siblings
import Conformance.Sweep.Case

/-! One message put into a response of OpenAI and into one of Ollama: both come to the same verdict,
unless the content is null or only one of the two texts is within the limit on brackets. -/
namespace Conformance.Reply

open Json (AnyNumber DecodeError Decoder Listed Members Nested Paired Record Sorted Spells)
open Outcome

variable {e : Expectation} {m : Json} {choices own : String} {limit limit' : Nat}

/-- A response of OpenAI with this message in its only choice. -/
def choicesOf (m : Json) : Json :=
  .object [("choices", .array [.object [("message", m)]])]

/-- A response of Ollama with this message. -/
def messageOf (m : Json) : Json :=
  .object [("message", m)]

/-- A message whose content is null, by its name or as the first of its fields in order. -/
def nullContent : Json → Bool
  | .object members => (Members.get? members "content").any Json.isNull
  | .array (content :: _) => content.isNull
  | _ => false

/-- The same message with its content left out. In a list the calls come next, and a list with more
than that is no message. -/
def withoutContent : Json → Option Json
  | .object members => some (.object (members.filter (·.1 ≠ "content")))
  | .array [_] => some (.object [])
  | .array [_, calls] => some (.object [("tool_calls", calls)])
  | _ => none

/-! ### What is read -/

/-- Chats on which every verdict is the same. No text is as good as an empty one. -/
structure SameChat (chat chat' : Chat) : Prop where
  text : chat.text.getD "" = chat'.text.getD ""
  calls : chat.calls = chat'.calls
  said : chat.said = chat'.said

/-- A content that may be missing and one that is empty then. -/
def SameContent (content : Option String) (text : String) : Prop :=
  content.getD "" = text

theorem paired_content {content : Json} (hn : content.isNull = false) :
    Paired SameContent (Decoder.nullable Decoder.string content) (Decoder.string content) := by
  cases content with
  | null => cases hn
  | string s => exact .found rfl
  | _ => exact .failed _ _

theorem sameChat_of_sameContent {found : Option String × List String}
    {found' : String × List String} (h : Json.Both SameContent Eq found found') :
    SameChat ⟨found.1, found.2, found.1.getD ""⟩ ⟨some found'.1, found'.2, found'.1⟩ :=
  ⟨h.1, h.2, h.1⟩

theorem paired_object {members : Members} (hs : Sorted (.object members))
    (hn : nullContent (.object members) = false) :
    Paired SameChat (Chat.assistantMessage (.object members))
      (Chat.ownMessage (.object members)) := by
  change Paired SameChat (Record.ofMembers _ members) (Record.ofMembers _ members)
  rw [Record.ofMembers_map, Record.ofMembers_map]
  have hcontent : Paired SameContent
      ((Record.defaulted "content" (Decoder.nullable Decoder.string) none).ofMembers members)
      ((Record.defaulted "content" Decoder.string "").ofMembers members) := by
    refine .ofMembers_defaulted hs.ordered rfl fun content hg => paired_content ?_
    simpa [nullContent, hg] using hn
  exact (hcontent.ofMembers_and (.refl _)).map fun _ _ h => sameChat_of_sameContent h

theorem listed_toolCalls (items : List Json) : Listed Eq Chat.toolCalls Chat.toolCalls items :=
  .map (.defaulted rfl fun _ _ => .refl _) fun _ _ h => congrArg (·.getD []) h

theorem paired_array {items : List Json} (hn : nullContent (.array items) = false) :
    Paired SameChat (Chat.assistantMessage (.array items)) (Chat.ownMessage (.array items)) := by
  have hcontent : Listed SameContent
      (Record.defaulted "content" (Decoder.nullable Decoder.string) none)
      (Record.defaulted "content" Decoder.string "") items := by
    refine .defaulted rfl fun content hc => paired_content ?_
    obtain ⟨rest, rfl⟩ := List.head?_eq_some_iff.mp hc
    exact hn
  exact ((hcontent.and listed_toolCalls).map fun _ _ h => sameChat_of_sameContent h).decoder _ _

theorem paired_messages (hs : Sorted m) (hn : nullContent m = false) :
    Paired SameChat (Chat.assistantMessage m) (Chat.ownMessage m) := by
  cases m with
  | object members => exact paired_object hs hn
  | array items => exact paired_array hn
  | _ => exact .failed _ _

/-! ### Null content -/

theorem ownMessage_of_nullContent (hs : Sorted m) (hn : nullContent m = true) :
    ∃ cause, Chat.ownMessage m = .error cause := by
  cases m with
  | object members =>
    obtain ⟨content, hg, hc⟩ := (Option.any_eq_true _ _).mp hn
    have hcontent : (Record.defaulted "content" Decoder.string "").ofMembers members =
        Decoder.string content := by
      rw [Record.ofMembers_defaulted hs.ordered, hg, Option.elim_some]
    cases hm : Chat.ownMessage (.object members) with
    | error cause => exact ⟨cause, rfl⟩
    | ok chat =>
      change Record.ofMembers _ members = _ at hm
      rw [Record.ofMembers_map] at hm
      obtain ⟨⟨text, calls⟩, hboth, _⟩ := map_eq_ok.mp hm
      rw [(Record.ofMembers_and.mp hboth).1] at hcontent
      cases content with
      | null => cases hcontent
      | _ => cases hc
  | array items =>
    cases items with
    | nil => cases hn
    | cons content rest =>
      cases content with
      | null => exact ⟨_, rfl⟩
      | _ => cases hn
  | _ => cases hn

/-- A message in which the content is null or missing is read for its calls alone. -/
theorem assistantMessage_calls {members : Members} (ho : members.Ordered)
    (hg : (members.get? "content").all Json.isNull = true) :
    Chat.assistantMessage (.object members) =
      (Chat.toolCalls.ofMembers members).map fun calls => ⟨none, calls, ""⟩ := by
  have hcontent : (Record.defaulted "content" (Decoder.nullable Decoder.string) none).ofMembers
      members = .ok none := by
    rw [Record.ofMembers_defaulted ho]
    cases hc : members.get? "content" with
    | none => rfl
    | some content =>
      rw [hc] at hg
      cases content with
      | null => rfl
      | _ => cases hg
  change Record.ofMembers _ members = _
  rw [Record.ofMembers_map, Record.ofMembers_and_of_ok hcontent]
  cases Chat.toolCalls.ofMembers members <;> rfl

theorem ofMembers_toolCalls_eq {members : Members} (ho : members.Ordered) :
    Chat.toolCalls.ofMembers members =
      ((members.get? "tool_calls").elim (.ok none)
        (Decoder.nullable (Decoder.list Chat.toolCall))).map (·.getD []) := by
  rw [Chat.toolCalls, Record.ofMembers_map, Record.ofMembers_defaulted ho]

/-- In a list the calls follow the content, and nothing follows them. -/
theorem assistantMessage_list (content calls : Json) (rest : List Json) :
    Chat.assistantMessage (.array (content :: calls :: rest)) = (do
      let text ← Decoder.nullable Decoder.string content
      let found ← Decoder.nullable (Decoder.list Chat.toolCall) calls
      if rest.isEmpty then pure ⟨text, found.getD [], text.getD ""⟩
      else .error (.invalidLength (rest.length + 2) "fewer elements in array")) := by
  cases hc : Decoder.nullable Decoder.string content <;>
    cases hf : Decoder.nullable (Decoder.list Chat.toolCall) calls <;>
      simp [Chat.assistantMessage, Chat.toolCalls, Record.decoder, Record.ofElements, Record.map,
        Record.and, Record.defaulted, Record.fieldWith, hc, hf, bind, Except.bind, pure,
        Except.pure]

theorem assistantMessage_withoutContent {m' : Json} (hs : Sorted m) (hn : nullContent m = true)
    (hm : withoutContent m = some m') : Chat.assistantMessage m = Chat.assistantMessage m' := by
  cases m with
  | object members =>
    cases hm
    have ho := hs.ordered
    have hnull : (Members.get? members "content").all Json.isNull = true := by
      obtain ⟨content, hg, hc⟩ := (Option.any_eq_true _ _).mp hn
      rw [hg]
      exact hc
    have hkept := Members.get?_filter_ne (k := "content") (by decide : "tool_calls" ≠ "content")
      members
    rw [assistantMessage_calls ho hnull, assistantMessage_calls (ho.filter _)
      (by rw [Members.get?_filter_self]; rfl), ofMembers_toolCalls_eq ho,
      ofMembers_toolCalls_eq (ho.filter _), hkept]
  | array items =>
    match items, hn, hm with
    | [content], hn, rfl =>
      cases content with
      | null => rfl
      | _ => cases hn
    | [content, calls], hn, rfl =>
      cases content with
      | null =>
        have ho := Members.ordered_singleton "tool_calls" calls
        have hcalls : Members.get? [("tool_calls", calls)] "tool_calls" = some calls := rfl
        rw [assistantMessage_calls ho rfl, ofMembers_toolCalls_eq ho, hcalls, Option.elim_some,
          assistantMessage_list]
        cases Decoder.nullable (Decoder.list Chat.toolCall) calls <;> rfl
      | _ => cases hn
  | _ => cases hm

theorem assistantMessage_long (content calls more : Json) (rest : List Json) :
    ∃ cause, Chat.assistantMessage (.array (content :: calls :: more :: rest)) = .error cause := by
  rw [assistantMessage_list]
  cases Decoder.nullable Decoder.string content with
  | error cause => exact ⟨cause, rfl⟩
  | ok text => cases Decoder.nullable (Decoder.list Chat.toolCall) calls <;> exact ⟨_, rfl⟩

/-! ### What is said about it -/

/-- The verdict on a response that holds nothing but what was read of its message. -/
def messageVerdict (p : Protocol) (e : Expectation) (found : Except DecodeError Chat) : Verdict :=
  .ofExcept (found.mapError (.malformed p) >>= Chat.judge p e)

theorem typed_choices (m : Json) :
    Chat.typed .openAI (.array [.object [("message", m)]]) =
      (Chat.assistantMessage m).map .ok := by
  have hc : Chat.choice (.object [("message", m)]) = Chat.assistantMessage m :=
    Record.ofMembers_required (Members.ordered_singleton _ _) rfl
  simp only [Chat.typed, Decoder.list, List.mapM_cons, List.mapM_nil, hc]
  cases Chat.assistantMessage m <;> rfl

theorem chatVerdict_choices (hr : Json.read choices = .ok (choicesOf m)) :
    chatVerdict .openAI e 200 choices = messageVerdict .openAI e (Chat.assistantMessage m) := by
  rw [chatVerdict_eq_envelopeVerdict hr rfl, envelopeVerdict, typed_choices, messageVerdict]
  cases Chat.assistantMessage m <;> rfl

theorem chatVerdict_message (hr : Json.read own = .ok (messageOf m)) :
    chatVerdict .ollama e 200 own = messageVerdict .ollama e (Chat.ownMessage m) := by
  rw [chatVerdict_eq_envelopeVerdict hr rfl, envelopeVerdict, messageVerdict]
  have ht : Chat.typed .ollama m = (Chat.ownMessage m).map .ok := rfl
  rw [ht]
  cases Chat.ownMessage m <;> rfl

theorem messageVerdict_fault {p : Protocol} (cause : DecodeError) :
    (messageVerdict p e (.error cause)).fault = some .decode :=
  rfl

/-- Verdicts that can only differ in how they word a fault of decoding. -/
structure SameFinding (v w : Verdict) : Prop where
  passed : v.passed = w.passed
  fault : v.fault = w.fault
  extracted : v.extracted = w.extracted
  message : v.fault ≠ some .decode → v.message = w.message

theorem SameFinding.of_eq {v w : Verdict} (h : v = w) : SameFinding v w := by
  subst h
  exact ⟨rfl, rfl, rfl, fun _ => rfl⟩

theorem judge_eq {chat chat' : Chat} (h : SameChat chat chat') :
    Verdict.ofExcept (chat.judge .openAI e) = Verdict.ofExcept (chat'.judge .ollama e) := by
  let found : Answer := ⟨chat'.text.getD "", chat'.calls, chat'.said⟩
  calc Verdict.ofExcept (chat.judge .openAI e)
      = found.verdict .openAI e := judge_agrees ⟨h.text, h.calls, h.said⟩
    _ = found.verdict .ollama e := by cases e <;> rfl
    _ = Verdict.ofExcept (chat'.judge .ollama e) := (judge_agrees ⟨rfl, rfl, rfl⟩).symm

theorem sameFinding_messageVerdict {found found' : Except DecodeError Chat}
    (h : Paired SameChat found found') :
    SameFinding (messageVerdict .openAI e found) (messageVerdict .ollama e found') := by
  cases h with
  | failed cause cause' => exact ⟨rfl, rfl, rfl, fun hf => absurd rfl hf⟩
  | found h => exact .of_eq (judge_eq h)

theorem verdict_notJson {body : String} {cause : Json.SyntaxError} (check : Check)
    (hr : Json.read body = .error cause) :
    ∃ p, check.verdict 200 body = (Complaint.notJson p cause).verdict := by
  have ho : ∀ p, object p 200 body = .error (.notJson p cause) := by
    intro p
    simp [object, noResponse, hr]
  cases check with
  | chat p e => exact ⟨p, chatVerdict_notJson hr⟩
  | models c =>
    refine ⟨c.protocol, ?_⟩
    simp only [Check.verdict, modelsVerdict, ho]
    rfl
  | embedding c =>
    refine ⟨c.protocol, ?_⟩
    simp only [Check.verdict, embeddingVerdict, ho]
    rfl

/-- A text of more than 127 open brackets at once is as good as no JSON, to every check. -/
theorem verdict_deep {body : String} {v : Json} (check : Check) (hb : Spells limit body v)
    (hd : ¬ Spells 127 body v) : (check.verdict 200 body).passed = false ∧
      (check.verdict 200 body).fault = some .decode ∧
      (check.verdict 200 body).extracted = none := by
  rcases hb.read_or_tooDeep with hr | ⟨cause, hr, _⟩
  · exact absurd (Json.read_eq_ok_iff.mp hr) hd
  · obtain ⟨p, hv⟩ := verdict_notJson check hr
    rw [hv]
    exact ⟨rfl, rfl, rfl⟩

theorem chatVerdict_deep {p : Protocol} {body : String} {v : Json} (hb : Spells limit body v)
    (hd : ¬ Spells 127 body v) : (chatVerdict p e 200 body).passed = false ∧
      (chatVerdict p e 200 body).fault = some .decode ∧
      (chatVerdict p e 200 body).extracted = none :=
  verdict_deep (.chat p e) hb hd

theorem sorted_of_member {key : String} (hs : Sorted (.object [(key, m)])) : Sorted m := by
  cases hs with
  | object _ h => exact h _ List.mem_cons_self

theorem sorted_message (hr : Json.read own = .ok (messageOf m)) : Sorted m :=
  sorted_of_member (Json.sorted_read hr)

theorem sorted_choice (hr : Json.read choices = .ok (choicesOf m)) : Sorted m := by
  have hlist := sorted_of_member (Json.sorted_read hr)
  exact sorted_of_member (hlist.items _ List.mem_cons_self)

theorem fault_of_nullContent (hn : nullContent m = true) (ho : Spells limit' own (messageOf m)) :
    (chatVerdict .ollama e 200 own).fault = some .decode := by
  by_cases hw : Spells 127 own (messageOf m)
  · have hr := Json.read_eq_ok_iff.mpr hw
    obtain ⟨cause, hm⟩ := ownMessage_of_nullContent (sorted_message hr) hn
    rw [chatVerdict_message hr, hm]
    exact messageVerdict_fault cause
  · exact (chatVerdict_deep ho hw).2.1

/-- Null content is missing content, wherever a message may be without content. -/
theorem chatVerdict_of_nullContent (hn : nullContent m = true)
    (hr : Json.read choices = .ok (choicesOf m)) :
    (∀ bare, ∀ m' ∈ withoutContent m, Spells 127 bare (choicesOf m') →
      chatVerdict .openAI e 200 choices = chatVerdict .openAI e 200 bare) ∧
    (withoutContent m = none → (chatVerdict .openAI e 200 choices).fault = some .decode) := by
  rw [chatVerdict_choices hr]
  constructor
  · intro bare m' hm hb
    rw [chatVerdict_choices (Json.read_eq_ok_iff.mpr hb),
      assistantMessage_withoutContent (sorted_choice hr) hn hm]
  · intro hm
    match m, hn, hm with
    | .array (content :: calls :: more :: rest), _, _ =>
      obtain ⟨cause, hf⟩ := assistantMessage_long content calls more rest
      rw [hf]
      exact messageVerdict_fault cause

/-- Around a message there are three brackets in a response of OpenAI, and one in Ollama's. -/
theorem nested_of_choicesOf (h : Nested AnyNumber (limit + 3) (choicesOf m)) :
    Nested AnyNumber limit m := by
  cases h with
  | object hc =>
    cases hc _ List.mem_cons_self with
    | array hm =>
      cases hm _ List.mem_cons_self with
      | object hm => exact hm _ List.mem_cons_self

theorem nested_of_messageOf (h : Nested AnyNumber (limit + 1) (messageOf m)) :
    Nested AnyNumber limit m := by
  cases h with
  | object hm => exact hm _ List.mem_cons_self

/-- The same message in any text of either response is judged alike, if its content is not null and
no more than 127 brackets are open at once in either text, or more than that in both. Content that
is null is missing content for OpenAI, and no content at all for Ollama. More brackets are a fault
of decoding, and there are more where the message alone leaves no room for those around it. -/
theorem messages_judged_alike (e : Expectation) (hc : Spells limit choices (choicesOf m))
    (ho : Spells limit' own (messageOf m)) :
    ((Spells 127 choices (choicesOf m) ↔ Spells 127 own (messageOf m)) → nullContent m = false →
      SameFinding (chatVerdict .openAI e 200 choices) (chatVerdict .ollama e 200 own)) ∧
    (nullContent m = true → (chatVerdict .ollama e 200 own).fault = some .decode ∧
      (Spells 127 choices (choicesOf m) →
        (∀ bare, ∀ m' ∈ withoutContent m, Spells 127 bare (choicesOf m') →
          chatVerdict .openAI e 200 choices = chatVerdict .openAI e 200 bare) ∧
        (withoutContent m = none → (chatVerdict .openAI e 200 choices).fault = some .decode))) ∧
    (¬ Spells 127 choices (choicesOf m) →
      (chatVerdict .openAI e 200 choices).fault = some .decode) ∧
    (¬ Spells 127 own (messageOf m) → (chatVerdict .ollama e 200 own).fault = some .decode) ∧
    (¬ Nested AnyNumber 124 m → ¬ Spells 127 choices (choicesOf m)) ∧
    (¬ Nested AnyNumber 126 m → ¬ Spells 127 own (messageOf m)) := by
  refine ⟨fun hw hn => ?_, fun hn => ⟨fault_of_nullContent hn ho, fun hw => ?_⟩,
    fun hd => (chatVerdict_deep hc hd).2.1, fun hd => (chatVerdict_deep ho hd).2.1,
    fun hm hw => hm (nested_of_choicesOf hw.nested),
    fun hm hw => hm (nested_of_messageOf hw.nested)⟩
  · by_cases hwc : Spells 127 choices (choicesOf m)
    · have hr := Json.read_eq_ok_iff.mpr hwc
      rw [chatVerdict_choices hr, chatVerdict_message (Json.read_eq_ok_iff.mpr (hw.mp hwc))]
      exact sameFinding_messageVerdict (paired_messages (sorted_choice hr) hn)
    · obtain ⟨hp, hf, hx⟩ := chatVerdict_deep (p := .openAI) (e := e) hc hwc
      obtain ⟨hp', hf', hx'⟩ := chatVerdict_deep (p := .ollama) (e := e) ho fun h => hwc (hw.mpr h)
      exact ⟨hp.trans hp'.symm, hf.trans hf'.symm, hx.trans hx'.symm, fun hne => absurd hf hne⟩
  · exact chatVerdict_of_nullContent hn (Json.read_eq_ok_iff.mpr hw)

/-- A message whose fields are listed in order, with no calls among them. -/
def listedMessage : String := "[\"hello\",null]"

def listedChoices : String := "\x7b\"choices\":[\x7b\"message\":" ++ listedMessage ++ "\x7d]\x7d"

def listedOwn : String := "\x7b\"message\":" ++ listedMessage ++ "\x7d"

theorem messages_judged_alike_listed :
    Spells 127 listedChoices (choicesOf (.array [.string "hello", .null])) ∧
      Spells 127 listedOwn (messageOf (.array [.string "hello", .null])) ∧
      SameFinding (chatVerdict .openAI .toolCall 200 listedChoices)
        (chatVerdict .ollama .toolCall 200 listedOwn) := by
  have hc : Spells 127 listedChoices (choicesOf (.array [.string "hello", .null])) :=
    Json.read_eq_ok_iff.mp (by cbv)
  have ho : Spells 127 listedOwn (messageOf (.array [.string "hello", .null])) :=
    Json.read_eq_ok_iff.mp (by cbv)
  exact ⟨hc, ho, (messages_judged_alike .toolCall hc ho).1 ⟨fun _ => ho, fun _ => hc⟩ rfl⟩

/-- Lists within a list, one more than `depth`. -/
def listWithin : Nat → Json
  | 0 => .array []
  | depth + 1 => .array [listWithin depth]

theorem sorted_listWithin (depth : Nat) : Sorted (listWithin depth) := by
  induction depth with
  | zero => exact .array nofun
  | succ depth ih => exact .array (List.forall_mem_singleton.mpr ih)

theorem fits_listWithin (depth : Nat) : Json.Fits (depth + 1) (listWithin depth) := by
  induction depth with
  | zero => exact .array nofun
  | succ depth ih => exact .array (List.forall_mem_singleton.mpr ih)

theorem lt_of_nested_listWithin {depth : Nat} (h : Nested AnyNumber limit (listWithin depth)) :
    depth < limit := by
  induction depth generalizing limit with
  | zero =>
    cases h
    exact Nat.succ_pos _
  | succ depth ih =>
    cases h with
    | array h => exact Nat.succ_lt_succ (ih (h _ List.mem_cons_self))

/-- A message with content, and beside it as many brackets as leave room for one around them. -/
def deepMessage : Json :=
  .object [("content", .string "hi"), ("x", listWithin 124)]

theorem sorted_deepMessage : Sorted deepMessage := by
  refine .object (?_ : List.Pairwise (· < ·) ["content", "x"]) ?_
  · decide
  · simp only [List.forall_mem_cons]
    exact ⟨.string _, sorted_listWithin 124, nofun⟩

theorem fits_deepMessage : Json.Fits 126 deepMessage := by
  refine .object ?_
  simp only [List.forall_mem_cons]
  exact ⟨.string _, fits_listWithin 124, nofun⟩

theorem spells_choicesOf_deepMessage :
    Spells 129 (choicesOf deepMessage).pretty (choicesOf deepMessage) := by
  refine Json.spells_pretty_of_sorted ?_ ?_
  · exact .object (List.forall_mem_singleton.mpr (.array (List.forall_mem_singleton.mpr
      (.object (List.forall_mem_singleton.mpr fits_deepMessage)))))
  · exact .object (Members.ordered_singleton _ _) (List.forall_mem_singleton.mpr
      (.array (List.forall_mem_singleton.mpr (.object (Members.ordered_singleton _ _)
        (List.forall_mem_singleton.mpr sorted_deepMessage)))))

theorem spells_messageOf_deepMessage :
    Spells 127 (messageOf deepMessage).pretty (messageOf deepMessage) := by
  refine Json.spells_pretty_of_sorted ?_ ?_
  · exact .object (List.forall_mem_singleton.mpr fits_deepMessage)
  · exact .object (Members.ordered_singleton _ _) (List.forall_mem_singleton.mpr sorted_deepMessage)

/-- Two brackets more around the message are two too many. -/
theorem deep_message_told_apart :
    nullContent deepMessage = false ∧
      Spells 129 (choicesOf deepMessage).pretty (choicesOf deepMessage) ∧
      Spells 127 (messageOf deepMessage).pretty (messageOf deepMessage) ∧
      (chatVerdict .openAI .text 200 (choicesOf deepMessage).pretty).passed = false ∧
      (chatVerdict .ollama .text 200 (messageOf deepMessage).pretty).passed = true := by
  refine ⟨rfl, spells_choicesOf_deepMessage, spells_messageOf_deepMessage, ?_, ?_⟩
  · refine (chatVerdict_deep spells_choicesOf_deepMessage fun hw => ?_).1
    -- of 127 brackets 124 are left to the message, and it needs 126
    cases nested_of_choicesOf hw.nested with
    | object h =>
      have hlt := lt_of_nested_listWithin (h ("x", listWithin 124) (by simp))
      omega
  · rw [chatVerdict_message (Json.read_eq_ok_iff.mpr spells_messageOf_deepMessage)]
    rfl

end Conformance.Reply
