import Conformance.Proofs.Json.Within
import Conformance.Proofs.Reply.Opened

/-! What an answer says stands in the envelope of the response, in whatever form its records were
written: nothing is made up by a default value. -/
namespace Conformance.Reply

open Json (Decoder Members Record Within)
open Outcome

/-- A text as the value it was read from. Of an empty text nothing can be told: it is also what
stands for an absent one. -/
def spoken (text : String) : List Json := if text = "" then [] else [.string text]

theorem mem_spoken {text : String} (h : text ≠ "") : Json.string text ∈ spoken text := by
  simp [spoken, h]

theorem draws_spoken : Decoder.string.Draws spoken :=
  Decoder.draws_string.mono fun text => by
    unfold spoken
    split
    · exact List.nil_subset _
    · exact List.Subset.refl _

namespace Chat

/-- The texts and the names of tools that an answer is made of. -/
def words (chat : Chat) : List Json := chat.text.toList.flatMap spoken ++ chat.calls.map .string

theorem draws_functionCall : functionCall.Draws fun tool => [.string tool] :=
  (Record.draws_required Decoder.draws_string).decoder _

theorem draws_toolCall : toolCall.Draws fun tool => [.string tool] :=
  (Record.draws_required draws_functionCall).decoder _

theorem draws_toolCalls : toolCalls.Draws (·.map .string) := by
  refine (Record.draws_defaulted_none (Decoder.draws_list draws_toolCall)).map fun calls => ?_
  cases calls with
  | none => exact List.nil_subset _
  | some calls => simp [List.map_eq_flatMap]

theorem draws_assistantMessage : assistantMessage.Draws words :=
  (((Record.draws_defaulted_none draws_spoken).and draws_toolCalls).map fun _ =>
    List.Subset.refl _).decoder _

theorem draws_choice : choice.Draws words :=
  (Record.draws_required draws_assistantMessage).decoder _

theorem draws_ownMessage : ownMessage.Draws words := by
  refine (Record.Draws.map ((Record.draws_defaulted draws_spoken rfl).and draws_toolCalls)
    fun found => ?_).decoder _
  simp [words]

/-! A block draws on the members beside its type, or on the elements after it. -/

def Block.words : Block → List Json
  | .text content => spoken content
  | .toolUse tool => [.string tool]
  | .other => []

theorem draws_textField : textField.Draws spoken :=
  Record.draws_defaulted draws_spoken rfl

theorem draws_nameField : nameField.Draws fun tool => [.string tool] :=
  Record.draws_required Decoder.draws_string

theorem Block.ofType_eq_ok {type : String} {text tool : Except Json.DecodeError String}
    {other : Except Json.DecodeError Unit} {b : Block} (h : ofType type text tool other = .ok b) :
    (∃ content, text = .ok content ∧ b = .text content) ∨
      (∃ name, tool = .ok name ∧ b = .toolUse name) ∨ b = .other := by
  unfold ofType at h
  split at h
  · obtain ⟨content, hc, rfl⟩ := map_eq_ok.mp h
    exact Or.inl ⟨content, hc, rfl⟩
  · split at h
    · obtain ⟨name, hn, rfl⟩ := map_eq_ok.mp h
      exact Or.inr (Or.inl ⟨name, hn, rfl⟩)
    · obtain ⟨_, _, rfl⟩ := map_eq_ok.mp h
      exact Or.inr (Or.inr rfl)

theorem draws_block : block.Draws Block.words := by
  intro v b hv w hw
  cases v with
  | object members =>
    simp only [block] at hv
    cases ht : Members.get? members "type" with
    | none => simp [ht] at hv
    | some type =>
      simp only [ht, bind_eq_ok] at hv
      obtain ⟨_, _, hb⟩ := hv
      have hm : ∃ m ∈ members.filter (·.1 ≠ "type"), Within w m.2 := by
        obtain ⟨content, hc, rfl⟩ | ⟨name, hn, rfl⟩ | rfl := Block.ofType_eq_ok hb
        · exact draws_textField.ofMembers hc w hw
        · exact draws_nameField.ofMembers hn w hw
        · cases hw
      obtain ⟨m, hm, hwithin⟩ := hm
      exact .member (List.mem_filter.mp hm).1 hwithin
  | array items =>
    cases items with
    | nil => cases hv
    | cons type items =>
      obtain ⟨_, _, hb⟩ := bind_eq_ok.mp hv
      have hu : ∃ u ∈ items, Within w u := by
        obtain ⟨content, hc, rfl⟩ | ⟨name, hn, rfl⟩ | rfl := Block.ofType_eq_ok hb
        · exact draws_textField.ofRest hc w hw
        · exact draws_nameField.ofRest hn w hw
        · cases hw
      obtain ⟨u, hu, hwithin⟩ := hu
      exact .item (List.mem_cons_of_mem type hu) hwithin
  | _ => cases hv

theorem words_ofBlocks (blocks : List Block) :
    (ofBlocks blocks).words ⊆ blocks.flatMap Block.words := by
  intro w hw
  rcases List.mem_append.mp hw with hw | hw
  · obtain ⟨text, ht, hw⟩ := List.mem_flatMap.mp hw
    obtain ⟨b, hb, hbt⟩ := List.exists_of_findSome?_eq_some (Option.mem_toList.mp ht)
    refine List.mem_flatMap.mpr ⟨b, hb, ?_⟩
    cases b <;> cases hbt
    exact hw
  · obtain ⟨tool, ht, rfl⟩ := List.mem_map.mp hw
    obtain ⟨b, hb, hbt⟩ := List.mem_filterMap.mp ht
    refine List.mem_flatMap.mpr ⟨b, hb, ?_⟩
    cases b <;> cases hbt
    exact List.mem_singleton_self _

def Part.words (part : Part) : List Json :=
  part.text.toList.flatMap spoken ++ part.call.toList.flatMap fun tool => [.string tool]

theorem draws_part : part.Draws Part.words :=
  (((Record.draws_defaulted_none draws_spoken).and
    (Record.draws_defaulted_none draws_functionCall)).map fun _ => List.Subset.refl _).decoder _

theorem draws_parts : parts.Draws (·.flatMap Part.words) :=
  (Record.draws_defaulted (Decoder.draws_list draws_part) rfl).decoder _

theorem draws_candidate : candidate.Draws (·.flatMap Part.words) :=
  (Record.draws_required draws_parts).decoder _

theorem words_ofParts (parts : List Part) : (ofParts parts).words ⊆ parts.flatMap Part.words := by
  intro w hw
  rcases List.mem_append.mp hw with hw | hw
  · obtain ⟨text, ht, hw⟩ := List.mem_flatMap.mp hw
    obtain ⟨part, hp, hpt⟩ := List.exists_of_findSome?_eq_some (Option.mem_toList.mp ht)
    refine List.mem_flatMap.mpr ⟨part, hp, List.mem_append_left _ ?_⟩
    exact List.mem_flatMap.mpr ⟨text, Option.mem_toList.mpr hpt, hw⟩
  · obtain ⟨tool, ht, rfl⟩ := List.mem_map.mp hw
    obtain ⟨part, hp, hpt⟩ := List.mem_filterMap.mp ht
    refine List.mem_flatMap.mpr ⟨part, hp, List.mem_append_right _ ?_⟩
    exact List.mem_flatMap.mpr ⟨tool, Option.mem_toList.mpr hpt, List.mem_singleton_self _⟩

theorem mem_of_first_eq_ok {α : Type} {p : Protocol} {answers : List α} {answer : α}
    (h : first p answers = .ok answer) : answer ∈ answers := by
  cases answers with
  | nil => cases h
  | cons _ rest =>
    cases h
    exact List.mem_cons_self

/-- Whatever an answer says stands in the envelope. -/
theorem words_of_typed {p : Protocol} {value : Json} {chat : Chat}
    (ht : typed p value = .ok (.ok chat)) : ∀ w ∈ chat.words, Within w value := by
  intro w hw
  cases p with
  | openAI =>
    obtain ⟨answers, ha, hf⟩ := map_eq_ok.mp ht
    exact Decoder.draws_list draws_choice value answers ha w
      (List.mem_flatMap.mpr ⟨chat, mem_of_first_eq_ok hf, hw⟩)
  | claude =>
    obtain ⟨blocks, hb, hc⟩ := map_eq_ok.mp ht
    cases hc
    exact Decoder.draws_list draws_block value blocks hb w (words_ofBlocks blocks hw)
  | gemini =>
    obtain ⟨answers, ha, hf⟩ := map_eq_ok.mp ht
    obtain ⟨parts, hp, rfl⟩ := map_eq_ok.mp hf
    exact Decoder.draws_list draws_candidate value answers ha w
      (List.mem_flatMap.mpr ⟨parts, mem_of_first_eq_ok hp, words_ofParts parts hw⟩)
  | ollama =>
    obtain ⟨answer, ha, hc⟩ := map_eq_ok.mp ht
    cases hc
    exact draws_ownMessage value chat ha w hw

end Chat

variable {p : Protocol} {status : Int} {body : String} {members : Members}

theorem of_object_eq_ok (h : object p status body = .ok members) :
    status = 200 ∧ Json.read body = .ok (.object members) := by
  unfold object at h
  split at h
  · cases h
  · split at h
    · cases h
    · rename_i hs
      split at h
      · rename_i hr
        cases h
        exact ⟨Classical.not_not.mp hs, hr⟩
      · cases h
      · cases h

/-- An opened response is a JSON object, in whose envelope field there is an answer. -/
theorem of_opened_eq_ok {chat : Chat} (h : opened p status body = .ok chat) :
    status = 200 ∧ ∃ (members : Members) (value : Json),
      Json.read body = .ok (.object members) ∧
      members.get? p.envelopeField = some value ∧ Chat.typed p value = .ok (.ok chat) := by
  obtain ⟨members, he, hc⟩ := bind_eq_ok.mp h
  obtain ⟨found, ho, he⟩ := bind_eq_ok.mp he
  obtain ⟨hs, hr⟩ := of_object_eq_ok ho
  have hf : found.contains p.envelopeField ∧ found = members := by
    split at he
    · rename_i hf
      cases he
      exact ⟨hf, rfl⟩
    · split at he <;> cases he
  obtain ⟨hf, rfl⟩ := hf
  rw [Members.contains_eq_isSome] at hf
  obtain ⟨value, hv⟩ := Option.isSome_iff_exists.mp hf
  rw [Chat.ofMembers_eq (Json.sorted_read hr).ordered hv] at hc
  obtain ⟨answer, ht, hc⟩ := bind_eq_ok.mp hc
  cases hc
  exact ⟨hs, found, value, hr, hv, mapError_eq_ok.mp ht⟩

end Conformance.Reply
