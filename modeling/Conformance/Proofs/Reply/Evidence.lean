import Conformance.Proofs.Reply.Words
import Conformance.Sweep.Case

/-! What a passing verdict reports stands in the response: no early return, default value or other
form of a record passes a response that does not show it. -/
namespace Conformance

open Json (Decoder Members Record Within)
open Outcome

namespace Reply

variable {members : Members}

/-! ### Listings and embeddings -/

theorem withOneOf_eq_ok {fields : List String} {subject : String}
    (h : withOneOf fields subject members = .ok ()) :
    ∃ field ∈ fields, (members.get? field).isSome := by
  unfold withOneOf at h
  split at h
  · rename_i hf
    obtain ⟨field, hm, hc⟩ := List.any_eq_true.mp hf
    exact ⟨field, hm, by rwa [← Members.contains_eq_isSome]⟩
  · cases h

theorem array_of_values {v : Json} {items : List Json}
    (h : Decoder.list Decoder.value v = .ok items) : v = .array items := by
  cases v with
  | array found =>
    have hid : ∀ a b, Decoder.value a = .ok b → a = id b := fun a b hab => Except.ok.inj hab
    rw [eq_map_of_mapM_eq_ok hid h, List.map_id]
  | _ => cases h

namespace Catalogue

/-- Whether the member may be left out makes no difference where it is there. -/
theorem models_ofMembers {c : Catalogue} (ho : members.Ordered) {value : Json}
    (hv : members.get? c.modelField = some value) :
    c.models.ofMembers members = Decoder.list Decoder.value value := by
  cases c with
  | openAI => exact Record.ofMembers_required ho hv
  | gemini =>
    have hv : members.get? "models" = some value := hv
    rw [models, Record.ofMembers_defaulted ho, hv]
    rfl
  | ollama => exact Record.ofMembers_required ho hv

/-- A listing is the list of its member, also where the protocol lets it be left out. -/
theorem models_of_members {c : Catalogue} (ho : members.Ordered) {value : Json}
    (hv : members.get? c.modelField = some value) {models : List Json}
    (hm : c.models.ofMembers members = .ok models) : value = .array models :=
  array_of_values ((models_ofMembers ho hv).symm.trans hm)

/-- A vector as the value it was read from. No vector is taken for an empty one. -/
def shown (vector : List Number) : List Json :=
  if vector = [] then [] else [.array (vector.map .number)]

theorem draws_vector : vector.Draws shown := by
  intro v ns hv w hw
  cases v with
  | array items =>
    have hn : ∀ a b, Decoder.number a = .ok b → a = .number b := by
      intro a b hab
      cases a <;> cases hab
      rfl
    rw [eq_map_of_mapM_eq_ok hn hv]
    unfold shown at hw
    split at hw
    · cases hw
    · obtain rfl := List.mem_singleton.mp hw
      exact .here
  | _ => cases hv

theorem draws_embedding (c : Catalogue) : c.embedding.Draws shown := by
  cases c with
  | openAI =>
    refine (Record.draws_required (Decoder.draws_list
      ((Record.draws_required draws_vector).decoder _))).map fun vectors => ?_
    cases vectors with
    | nil => exact List.nil_subset _
    | cons v rest => exact List.subset_append_left _ _
  | gemini =>
    exact Record.draws_required ((Record.draws_required draws_vector).decoder _)
  | ollama =>
    refine ((Record.draws_defaulted_none (Decoder.draws_list draws_vector)).and
      (Record.draws_defaulted_none draws_vector)).map fun (vectors, single) => ?_
    cases hv : vectors.bind List.head? with
    | some vector =>
      obtain ⟨first, rfl, hf⟩ := Option.bind_eq_some_iff.mp hv
      obtain ⟨rest, rfl⟩ := List.head?_eq_some_iff.mp hf
      simp [List.flatMap_cons]
    | none => cases single <;> simp [hv, shown]

end Catalogue

end Reply

/-! ### Every check -/

/-- What a response must show for a check to pass it, and what is extracted from it then. -/
inductive Check.Shown (members : Members) : Check → Extracted → Prop where
  | text {p : Protocol} {envelope : Json} {text : String}
    (he : members.get? p.envelopeField = some envelope) (hn : text ≠ "")
    (hw : Within (.string text) envelope) : Shown members (.chat p .text) (.text text)
  | toolCall {p : Protocol} {envelope : Json}
    (he : members.get? p.envelopeField = some envelope)
    (hw : Within (.string "get_weather") envelope) :
    Shown members (.chat p .toolCall) (.toolCall "get_weather")
  | models {c : Reply.Catalogue} {items : List Json}
    (hm : members.get? c.modelField = some (.array items)) :
    Shown members (.models c) (.count items.length)
  | embedding {c : Reply.Catalogue} {numbers : List Number} (hn : numbers ≠ [])
    (hw : Within (.array (numbers.map .number)) (.object members)) :
    Shown members (.embedding c) (.count numbers.length)

/-- The judgements that a check may come to on a response. -/
inductive Check.Judges (check : Check) (status : Int) (body : String) : Verdict → Prop where
  | complaint (c : Complaint) : Judges check status body c.verdict
  | pass {message : String} {x : Extracted} {members : Members} (hm : message ≠ "")
    (hs : status = 200) (hr : Json.read body = .ok (.object members))
    (hx : check.Shown members x) : Judges check status body (.pass message x)

theorem append_ne_empty_left {s t : String} (h : s ≠ "") : s ++ t ≠ "" :=
  fun he => h (String.append_eq_empty_iff.mp he).1

theorem append_ne_empty_right {s t : String} (h : t ≠ "") : s ++ t ≠ "" :=
  fun he => h (String.append_eq_empty_iff.mp he).2

namespace Complaint

theorem message_ne_empty (c : Complaint) : c.message ≠ "" := by
  cases c with
  | noResponse => exact append_ne_empty_left (by decide)
  | badStatus | notJson | notObject | missing | foreign | malformed | emptyList =>
    exact append_ne_empty_left (append_ne_empty_left (append_ne_empty_left (by decide)))
  | noToolCall => exact append_ne_empty_left (append_ne_empty_right (by decide))
  | emptyContent | emptyEmbedding => decide

end Complaint

namespace Check

variable {status : Int} {body : String}

theorem judges_ofExcept {check : Check} {x : Except Complaint Verdict}
    (h : ∀ v, x = .ok v → check.Judges status body v) : check.Judges status body (.ofExcept x) := by
  cases x with
  | error c => exact .complaint c
  | ok v => exact h v rfl

open Reply

theorem judges_text {p : Protocol} {chat : Chat} (ho : opened p status body = .ok chat)
    {v : Verdict} (hv : judgeText chat.text = .ok v) :
    (Check.chat p .text).Judges status body v := by
  obtain ⟨hs, members, envelope, hr, he, ht⟩ := of_opened_eq_ok ho
  obtain ⟨text, hc, hn, rfl⟩ := judgeText_eq_ok.mp hv
  have hw : Json.string text ∈ chat.words := by
    simp [Chat.words, hc, mem_spoken hn]
  exact .pass (append_ne_empty_left (append_ne_empty_left (by decide))) hs hr
    (.text he hn (Chat.words_of_typed ht _ hw))

theorem judges_toolCall {p : Protocol} {chat : Chat} (ho : opened p status body = .ok chat)
    {v : Verdict} (hv : chat.judge p .toolCall = .ok v) :
    (Check.chat p .toolCall).Judges status body v := by
  obtain ⟨hs, members, envelope, hr, he, ht⟩ := of_opened_eq_ok ho
  obtain ⟨hm, rfl⟩ := judge_toolCall_eq_ok.mp hv
  have hw : Json.string "get_weather" ∈ chat.words :=
    List.mem_append_right _ (List.mem_map_of_mem hm)
  exact .pass (by cases p <;> simp [Chat.calledMessage]) hs hr
    (.toolCall he (Chat.words_of_typed ht _ hw))

theorem judges (check : Check) (status : Int) (body : String) :
    check.Judges status body (check.verdict status body) := by
  cases check with
  | chat p e =>
    change Judges _ status body (chatVerdict p e status body)
    rw [chatVerdict_eq_judge]
    refine judges_ofExcept fun v hv => ?_
    obtain ⟨chat, ho, hj⟩ := bind_eq_ok.mp hv
    cases e with
    | text => exact judges_text ho hj
    | toolCall => exact judges_toolCall ho hj
  | models c =>
    refine judges_ofExcept fun v hv => ?_
    simp only [bind_eq_ok] at hv
    obtain ⟨members, ho, _, hf, models, hm, hv⟩ := hv
    cases hv
    obtain ⟨hs, hr⟩ := of_object_eq_ok ho
    obtain ⟨field, hmem, hsome⟩ := withOneOf_eq_ok hf
    obtain rfl := List.mem_singleton.mp hmem
    obtain ⟨value, hval⟩ := Option.isSome_iff_exists.mp hsome
    obtain rfl := Catalogue.models_of_members (Json.sorted_read hr).ordered hval
      (mapError_eq_ok.mp hm)
    exact .pass (by simp) hs hr (.models hval)
  | embedding c =>
    refine judges_ofExcept fun v hv => ?_
    simp only [bind_eq_ok] at hv
    obtain ⟨members, ho, _, _, vector, hd, hv⟩ := hv
    obtain ⟨hs, hr⟩ := of_object_eq_ok ho
    split at hv
    · cases hv
    · rename_i hn
      cases hv
      have hn : vector ≠ [] := fun h => hn (h ▸ rfl)
      have hw : Json.array (vector.map .number) ∈ Catalogue.shown vector := by
        simp [Catalogue.shown, hn]
      obtain ⟨m, hm, hwithin⟩ := (Catalogue.draws_embedding c).ofMembers (mapError_eq_ok.mp hd) _ hw
      exact .pass (by simp) hs hr (.embedding hn (.member hm hwithin))

end Check

/-- What holds of every judgement: it either passes or has a fault, and it passes only with
something extracted that the response shows. -/
structure Verdict.BorneOut (v : Verdict) (check : Check) (status : Int) (body : String) : Prop where
  passed_iff_faultless : v.passed ↔ v.fault = none
  passed_iff_extracted : v.passed ↔ v.extracted.isSome
  message_ne_empty : v.message ≠ ""
  shown : v.passed → status = 200 ∧ ∃ members x,
    Json.read body = .ok (.object members) ∧ v.extracted = some x ∧ check.Shown members x
  text?_iff : ∀ text, v.text? = some text ↔
    v.passed ∧ (∃ p, check = .chat p .text) ∧ v.extracted = some (.text text)
  tool?_iff : ∀ tool, v.tool? = some tool ↔
    v.passed ∧ (∃ p, check = .chat p .toolCall) ∧ v.extracted = some (.toolCall tool)

variable {check : Check} {status : Int} {body : String} {v : Verdict}

theorem Check.Judges.borneOut (h : check.Judges status body v) : v.BorneOut check status body := by
  cases h with
  | complaint c =>
    exact {
      passed_iff_faultless := ⟨nofun, nofun⟩
      passed_iff_extracted := ⟨nofun, nofun⟩
      message_ne_empty := c.message_ne_empty
      shown := nofun
      text?_iff := fun text => ⟨nofun, nofun⟩
      tool?_iff := fun tool => ⟨nofun, nofun⟩ }
  | @pass message x members hm hs hr hx =>
    exact {
      passed_iff_faultless := ⟨fun _ => rfl, fun _ => rfl⟩
      passed_iff_extracted := ⟨fun _ => rfl, fun _ => rfl⟩
      message_ne_empty := hm
      shown := fun _ => ⟨hs, members, x, hr, rfl, hx⟩
      text?_iff := fun text => by
        cases hx <;> simp [Verdict.text?, Verdict.pass]
      tool?_iff := fun tool => by
        cases hx <;> simp [Verdict.tool?, Verdict.pass] }

/-- Every verdict is borne out by the response: whatever the status and the body, also where records
are written as lists, nothing passes without the evidence and nothing fails without a fault. -/
theorem verdict_borneOut (check : Check) (status : Int) (body : String) :
    (check.verdict status body).BorneOut check status body :=
  (check.judges status body).borneOut

end Conformance
