import Conformance.Proofs.Json.Fields
import Conformance.Reply.Chat

/-! How far a chat response gets: each way to fail, and what is judged when none of them applies. -/
namespace Conformance.Reply

open Json (Members)
open Outcome

namespace Chat

/-- The value of an envelope field as what a protocol keeps there. A list without an answer is typed
too, but there is nothing to judge in it. -/
def typed (p : Protocol) (value : Json) : Except Json.DecodeError (Except Complaint Chat) :=
  match p with
  | .openAI => (Json.Decoder.list choice value).map (first .openAI)
  | .claude => (Json.Decoder.list block value).map fun blocks => .ok (ofBlocks blocks)
  | .gemini => (Json.Decoder.list candidate value).map fun answers =>
      (first .gemini answers).map ofParts
  | .ollama => (ownMessage value).map .ok

/-- A response is read from its envelope field alone, whatever other members there are. -/
theorem ofMembers_eq {p : Protocol} {members : Members} (ho : members.Ordered) {value : Json}
    (hv : members.get? p.envelopeField = some value) :
    ofMembers p members = (typed p value).mapError (.malformed p) >>= id := by
  cases p with
  | openAI =>
    have hr : choices.ofMembers members = Json.Decoder.list choice value :=
      Json.Record.ofMembers_required ho hv
    simp only [ofMembers, decode, hr, typed]
    cases Json.Decoder.list choice value <;> rfl
  | claude =>
    have hr : content.ofMembers members = Json.Decoder.list block value :=
      Json.Record.ofMembers_required ho hv
    simp only [ofMembers, decode, hr, typed]
    cases Json.Decoder.list block value <;> rfl
  | gemini =>
    have hr : candidates.ofMembers members = Json.Decoder.list candidate value :=
      Json.Record.ofMembers_required ho hv
    simp only [ofMembers, decode, hr, typed]
    cases Json.Decoder.list candidate value with
    | error e => rfl
    | ok answers =>
      change (first .gemini answers >>= fun answer => pure (ofParts answer)) =
        (first .gemini answers).map ofParts
      cases first .gemini answers <;> rfl
  | ollama =>
    have hr : message.ofMembers members = ownMessage value :=
      Json.Record.ofMembers_required ho hv
    simp only [ofMembers, decode, hr, typed]
    cases ownMessage value <;> rfl

end Chat

variable {p q : Protocol} {e : Expectation} {status : Int} {body : String} {members : Members}
  {value : Json}

theorem chatVerdict_noResponse :
    chatVerdict p e noResponse body = (Complaint.noResponse body).verdict := by
  simp [chatVerdict, envelope, object, bind, Except.bind, Verdict.ofExcept]

theorem chatVerdict_badStatus (hn : status ≠ noResponse) (hs : status ≠ 200) :
    chatVerdict p e status body = (Complaint.badStatus status body).verdict := by
  simp [chatVerdict, envelope, object, hn, hs, bind, Except.bind, Verdict.ofExcept]

theorem object_eq_ok (hr : Json.read body = .ok (.object members)) :
    object p 200 body = .ok members := by
  simp [object, noResponse, hr]

theorem chatVerdict_notJson {cause : Json.SyntaxError} (hr : Json.read body = .error cause) :
    chatVerdict p e 200 body = (Complaint.notJson p cause).verdict := by
  simp [chatVerdict, envelope, object, noResponse, hr, bind, Except.bind, Verdict.ofExcept]

theorem chatVerdict_notObject (hr : Json.read body = .ok value)
    (hv : ∀ members, value ≠ .object members) :
    chatVerdict p e 200 body = (Complaint.notObject p value).verdict := by
  have ho : object p 200 body = .error (.notObject p value) := by
    cases value with
    | object members => exact absurd rfl (hv members)
    | _ => simp [object, noResponse, hr]
  simp [chatVerdict, envelope, ho, bind, Except.bind, Verdict.ofExcept]

theorem chatVerdict_foreign (hr : Json.read body = .ok (.object members))
    (hl : members.get? p.envelopeField = none) (hf : foreignTo p members = some q) :
    chatVerdict p e 200 body = (Complaint.foreign q p).verdict := by
  have hc : members.contains p.envelopeField = false := by
    rw [Members.contains_eq_isSome, hl, Option.isSome_none]
  simp [chatVerdict, envelope, object_eq_ok hr, hc, hf, bind, Except.bind, Verdict.ofExcept]

theorem chatVerdict_missing (hr : Json.read body = .ok (.object members))
    (hl : members.get? p.envelopeField = none) (hf : foreignTo p members = none) :
    chatVerdict p e 200 body =
      (Complaint.missing p.envelopeField (p.displayName ++ " response")).verdict := by
  have hc : members.contains p.envelopeField = false := by
    rw [Members.contains_eq_isSome, hl, Option.isSome_none]
  simp [chatVerdict, envelope, object_eq_ok hr, hc, hf, bind, Except.bind, Verdict.ofExcept]

/-- Foreign fields do not matter where the protocol's own one is there. -/
theorem chatVerdict_own (hr : Json.read body = .ok (.object members))
    (hv : members.get? p.envelopeField = some value) :
    chatVerdict p e 200 body = .ofExcept (do
      let chat ← (Chat.typed p value).mapError (.malformed p) >>= id
      chat.judge p e) := by
  have hc : members.contains p.envelopeField = true := by
    rw [Members.contains_eq_isSome, hv, Option.isSome_some]
  have ho : members.Ordered := (Json.sorted_read hr).ordered
  rw [← Chat.ofMembers_eq ho hv]
  simp [chatVerdict, envelope, object_eq_ok hr, hc, bind, Except.bind, pure, Except.pure]

theorem chatVerdict_malformed {cause : Json.DecodeError}
    (hr : Json.read body = .ok (.object members))
    (hv : members.get? p.envelopeField = some value) (ht : Chat.typed p value = .error cause) :
    chatVerdict p e 200 body = (Complaint.malformed p cause).verdict := by
  rw [chatVerdict_own hr hv, ht]
  rfl

theorem chatVerdict_typed {answer : Except Complaint Chat}
    (hr : Json.read body = .ok (.object members))
    (hv : members.get? p.envelopeField = some value) (ht : Chat.typed p value = .ok answer) :
    chatVerdict p e 200 body = .ofExcept (answer >>= Chat.judge p e) := by
  rw [chatVerdict_own hr hv, ht]
  rfl

/-- In a typed envelope only an answer can be wanting. -/
theorem typed_fault {answer : Except Complaint Chat} (ht : Chat.typed p value = .ok answer) :
    ∀ c, answer = .error c → c.fault = .semantic := by
  rintro c rfl
  cases p with
  | openAI =>
    obtain ⟨choices, _, hf⟩ := map_eq_ok.mp ht
    cases choices <;> cases hf
    rfl
  | claude =>
    obtain ⟨_, _, hf⟩ := map_eq_ok.mp ht
    cases hf
  | gemini =>
    obtain ⟨answers, _, hf⟩ := map_eq_ok.mp ht
    cases answers <;> cases hf
    rfl
  | ollama =>
    obtain ⟨_, _, hf⟩ := map_eq_ok.mp ht
    cases hf

theorem judge_fault (chat : Chat) : ∀ c, chat.judge p e = .error c → c.fault = .semantic := by
  intro c hc
  unfold Chat.judge at hc
  cases e with
  | text =>
    simp only [judgeText] at hc
    split at hc
    · cases hc
      rfl
    · split at hc <;> cases hc
      rfl
  | toolCall =>
    simp only [judgeCall] at hc
    split at hc <;> cases hc
    rfl

/-- Every text passes but the empty one. -/
theorem judgeText_eq_ok {said : Option String} {v : Verdict} :
    judgeText said = .ok v ↔ ∃ text, said = some text ∧ text ≠ "" ∧
      v = .pass ("Text: " ++ Text.snippet textPreview text ++ "...") (.text text) := by
  constructor
  · intro h
    unfold judgeText at h
    split at h
    · cases h
    · rename_i text
      split at h
      · cases h
      · rename_i he
        cases h
        exact ⟨text, rfl, by simpa using he, rfl⟩
  · rintro ⟨text, rfl, he, rfl⟩
    exact if_neg (by simpa using he)

/-- A call of the declared tool passes, wherever it stands among the calls. -/
theorem judge_toolCall_eq_ok {chat : Chat} {v : Verdict} :
    chat.judge p .toolCall = .ok v ↔ toolName ∈ chat.calls ∧
      v = .pass (Chat.calledMessage p) (.toolCall toolName) := by
  simp only [Chat.judge]
  cases hf : chat.calls.find? (· = toolName) with
  | none =>
    refine iff_of_false nofun ?_
    rintro ⟨hm, _⟩
    exact List.find?_eq_none.mp hf toolName hm (by decide)
  | some tool =>
    have htool := List.find?_some hf
    obtain rfl : tool = toolName := of_decide_eq_true htool
    have hm := List.mem_of_find?_eq_some hf
    constructor
    · intro h
      cases h
      exact ⟨hm, rfl⟩
    · rintro ⟨_, rfl⟩
      rfl

/-- What an answer passes with. -/
theorem judge_pass (chat : Chat) :
    ∀ v, chat.judge p e = .ok v → ∃ message x, v = .pass message x := by
  intro v hv
  cases e with
  | text =>
    obtain ⟨_, _, _, rfl⟩ := judgeText_eq_ok.mp hv
    exact ⟨_, _, rfl⟩
  | toolCall =>
    obtain ⟨_, rfl⟩ := judge_toolCall_eq_ok.mp hv
    exact ⟨_, _, rfl⟩

/-- What a validator says: it passes with something, or it has one complaint. -/
inductive Settled : Verdict → Prop where
  | pass (message : String) (x : Extracted) : Settled (.pass message x)
  | complaint (c : Complaint) : Settled c.verdict

theorem settled_ofExcept {x : Except Complaint Verdict}
    (h : ∀ v, x = .ok v → ∃ message extracted, v = .pass message extracted) :
    Settled (.ofExcept x) := by
  cases x with
  | error c => exact .complaint c
  | ok v =>
    obtain ⟨message, extracted, rfl⟩ := h v rfl
    exact .pass message extracted

theorem chatVerdict_settled : Settled (chatVerdict p e status body) := by
  refine settled_ofExcept fun v hv => ?_
  simp only [bind_eq_ok] at hv
  obtain ⟨_, _, chat, _, hj⟩ := hv
  exact judge_pass chat v hj

/-- A verdict passes exactly if it carries no fault. -/
theorem passed_iff_fault_eq_none {v : Verdict} (h : Settled v) : v.passed ↔ v.fault = none := by
  cases h with
  | pass message x => simp [Verdict.pass]
  | complaint c => simp [Complaint.verdict, Verdict.fail]

theorem chatVerdict_typed_fault {answer : Except Complaint Chat}
    (hr : Json.read body = .ok (.object members))
    (hv : members.get? p.envelopeField = some value) (ht : Chat.typed p value = .ok answer) :
    (chatVerdict p e 200 body).fault = none ∨
      (chatVerdict p e 200 body).fault = some .semantic := by
  rw [chatVerdict_typed hr hv ht]
  cases answer with
  | error c => exact Or.inr (congrArg some (typed_fault ht c rfl))
  | ok chat =>
    have hb : (Except.ok chat >>= Chat.judge p e) = chat.judge p e := rfl
    rw [hb]
    cases hj : chat.judge p e with
    | error c => exact Or.inr (congrArg some (judge_fault chat c hj))
    | ok v =>
      obtain ⟨_, _, rfl⟩ := judge_pass chat v hj
      exact Or.inl rfl

end Conformance.Reply
