import Conformance.Proofs.Request.Address
import Conformance.Proofs.Request.Delivery
import Conformance.Proofs.Url.Segments

/-! Where the requests of chats arrive. The path asked for is the route, then the endpoint of the
protocol, and names of groups and models are segments of it just where they are plain. -/
namespace Conformance

open List (Forall₂)
open Url (Host IsPlainName keptInPath percentDecode percentEncode unbroken utf8)

variable {c : Config} {u v w : Url} {host : Host} {k : ChatCase}

/-! ### What is asked for -/

/-- A segment that is asked for: a word as it stands, or a name that is decoded. -/
inductive Segment where
  | word (text : String)
  | name (text : String)
deriving DecidableEq

namespace Segment

def text : Segment → List Char
  | word text => text.toList
  | name text => text.toList

/-- The segment of a path is the one asked for. -/
def Is : Segment → List Char → Prop
  | word text, found => found = text.toList
  | name text, found => percentDecode found = utf8 text.toList

end Segment

def Route.segments : Route → List Segment
  | .default => []
  | .switch => [.word "switch"]
  | .switchCompat => [.word "switch", .word "compat"]
  | .group name => [.name name]
  | .groupCompat name => [.name name, .word "compat"]

/-- The endpoint for chats with a model. -/
def Protocol.segments (model : String) : Protocol → List Segment
  | .openAI => [.word "v1", .word "chat", .word "completions"]
  | .claude => [.word "v1", .word "messages"]
  | .gemini => [.word "v1beta", .word "models", .name (model ++ ":generateContent")]
  | .ollama => [.word "api", .word "chat"]

namespace ChatCase

def segments (k : ChatCase) : List Segment := k.route.segments ++ k.protocol.segments k.model

/-- Nothing, or the pair that carries the key. -/
def query (k : ChatCase) (key : String) : Option (List Char) :=
  if k.protocol = .gemini then some (Url.Form.encodePair "key".toList key.toList) else none

/-- An address at which the gateway is asked for a chat and nothing else. -/
structure IsAskedAt (k : ChatCase) (key : String) (v : Url) : Prop where
  path : ∃ segments, v.path = .segments segments ∧ Forall₂ Segment.Is k.segments segments
  query : v.query = k.query key
  fragment : v.fragment = none

/-- The names that are put into the path can be segments of it. -/
def IsPlain (k : ChatCase) : Prop :=
  ∀ name, Segment.name name ∈ k.segments → IsPlainName name.toList

def tail (k : ChatCase) : String := k.protocol.chatTail k.route k.model

end ChatCase

/-! ### Words and names -/

/-- The words of routes and endpoints. -/
def pathWords : List String :=
  ["switch", "compat", "v1", "chat", "completions", "messages", "v1beta", "models", "api"]

theorem mem_pathWords {text : String} (h : Segment.word text ∈ k.segments) :
    text ∈ pathWords := by
  obtain ⟨p, route, model, scenario⟩ := k
  have hroute : ∀ segment ∈ route.segments, ∀ text, segment = .word text → text ∈ pathWords := by
    cases route <;> simp [Route.segments, pathWords]
  have hprotocol : ∀ segment ∈ p.segments model, ∀ text, segment = .word text →
      text ∈ pathWords := by
    cases p <;> simp [Protocol.segments, pathWords]
  obtain h | h := List.mem_append.mp h
  · exact hroute _ h text rfl
  · exact hprotocol _ h text rfl

theorem isPlainName_of_word {text : String} (h : Segment.word text ∈ k.segments) :
    IsPlainName text.toList ∧ percentEncode keptInPath text.toList = text.toList := by
  have hall : ∀ text ∈ pathWords, IsPlainName text.toList ∧ text.toList.all keptInPath = true := by
    decide +kernel
  obtain ⟨hp, hk⟩ := hall text (mem_pathWords h)
  exact ⟨hp, Url.percentEncode_eq_self (List.all_eq_true.mp hk)⟩

/-- The text of a tail is that of the segments that are asked for. -/
theorem toList_tail (k : ChatCase) :
    k.tail.toList = (Url.Path.segments (k.segments.map Segment.text)).text := by
  obtain ⟨p, route, model, scenario⟩ := k
  have hroute : route.path.toList =
      (Url.Path.segments (route.segments.map Segment.text)).text := by
    cases route <;> simp [Route.path, Route.segments, Url.Path.text, Segment.text]
  have hprotocol : (p.chatAction model).toList =
      (Url.Path.segments ((p.segments model).map Segment.text)).text := by
    cases p <;> simp [Protocol.chatAction, Protocol.chatEndpoint, Protocol.segments, action,
      Url.Path.text, Segment.text]
  simp only [ChatCase.tail, Protocol.chatTail, String.toList_append, hroute, hprotocol,
    ChatCase.segments, List.map_append, Url.Path.text, List.flatMap_append]

/-- Found under its name or as its word, a segment decodes to its text. -/
theorem decodes_of_is {found : List (List Char)} {wanted : List Segment}
    (hw : ∀ text, Segment.word text ∈ wanted → IsPlainName text.toList)
    (h : Forall₂ Segment.Is wanted found) : Url.Decodes (wanted.map Segment.text) found := by
  rw [Url.Decodes, List.forall₂_map_left_iff]
  induction h with
  | nil => exact .nil
  | @cons segment _ _ _ hs _ ih =>
    refine .cons ?_ (ih fun text hm => hw text (List.mem_cons_of_mem _ hm))
    cases segment with
    | word text =>
      rw [hs]
      exact Url.percentDecode_eq_utf8 (hw text List.mem_cons_self).noEscape
    | name text => exact hs

/-- A plain name is found once it is written into a path. -/
theorem is_of_plain {segment : Segment} (hs : segment ∈ k.segments) (hp : k.IsPlain) :
    segment.Is (percentEncode keptInPath segment.text) := by
  cases segment with
  | word text => exact (isPlainName_of_word hs).2
  | name text =>
    have hdecode := Url.percentDecode_percentEncode Url.keepsEscapes_path text.toList
    exact hdecode.trans (Url.percentDecode_eq_utf8 (hp text hs).noEscape)

/-! ### Where it arrives -/

theorem unbroken_tail (k : ChatCase) : unbroken k.tail =
    (Url.Path.segments (k.segments.map Segment.text)).text.filter (!Url.isLineSpace ·) := by
  rw [unbroken, toList_tail]

theorem segments_ne_nil (k : ChatCase) : k.segments.map Segment.text ≠ [] := by
  obtain ⟨p, route, model, scenario⟩ := k
  have hne : p.segments model ≠ [] := by cases p <;> exact List.cons_ne_nil _ _
  simp [ChatCase.segments, hne]

/-- A chat is asked for as it should be just where its names are plain. -/
theorem isAskedAt_iff (hpath : v.path = (u.withTail (unbroken k.tail)).path)
    (hfragment : v.fragment = (u.withTail (unbroken k.tail)).fragment) {key : String}
    (hquery : (u.withTail (unbroken k.tail)).query = none → v.query = k.query key) :
    k.IsAskedAt key v ↔ k.IsPlain := by
  rw [unbroken_tail] at hpath hfragment hquery
  constructor
  · rintro ⟨⟨found, hv, hfound⟩, _, _⟩
    have hplain := Url.plain_of_withTail (segments_ne_nil k) (hpath.symm.trans hv)
      (decodes_of_is (fun text hm => (isPlainName_of_word hm).1) hfound)
    exact fun name hm => hplain _ (List.mem_map_of_mem (f := Segment.text) hm)
  · intro hp
    have hplain : ∀ name ∈ k.segments.map Segment.text, IsPlainName name := by
      intro name hm
      obtain ⟨segment, hs, rfl⟩ := List.mem_map.mp hm
      cases segment with
      | word text => exact (isPlainName_of_word hs).1
      | name text => exact hp text hs
    have htail := Url.withTail_plain (u := u) (segments_ne_nil k) hplain
    rw [htail] at hpath hfragment hquery
    refine ⟨⟨_, hpath, ?_⟩, hquery rfl, hfragment⟩
    rw [List.forall₂_map_right_iff, List.forall₂_map_right_iff, List.forall₂_same]
    exact fun segment hs => is_of_plain hs hp

/-- The address of a chat with a gateway that has no path of its own. -/
theorem Config.Gateway.read_chatUrl (hg : c.Gateway u host) (hb : u.Bare) (k : ChatCase) :
    Url.read (c.chatUrl k) =
      if k.protocol = .gemini then
        (Url.readHost host.text).map fun _ =>
          (u.withTail (unbroken k.tail)).withPair "key" c.target.apiKey
      else .ok (u.withTail (unbroken k.tail)) := by
  obtain ⟨hread, hn⟩ := hg.read_bare hb (tail_chat k.protocol k.route k.model)
  rw [Config.chatUrl, chatUrl_eq]
  split
  · exact read_keyed hread hn c.target.apiKey
  · exact hread

/-- Behind a gateway without a path of its own a chat has an address, but for one of Gemini where
that of the gateway is not read again as it is written. It arrives at its route and endpoint, and
nothing of it elsewhere, just where its names are plain. -/
theorem chat_isAskedAt_iff (h : c.check = .ok ()) (hr : Url.read c.baseUrl = .ok u) (hb : u.Bare)
    (k : ChatCase) :
    ((∃ v, Url.read (c.chatUrl k) = .ok v) ↔
      (k.protocol = .gemini → ∃ w, Url.read u.text = .ok w)) ∧
    ∀ v, Url.read (c.chatUrl k) = .ok v →
      (k.IsAskedAt c.target.apiKey v ↔ k.IsPlain) ∧
      ∀ d, Transport.prepare (c.chatCase k).request = .ok d →
        d.url = { v with fragment := none } := by
  obtain ⟨u', host, hg⟩ := Config.gateway_of_check h
  obtain rfl : u' = u := Except.ok.inj (hg.read.symm.trans hr)
  have hread := hg.read_chatUrl hb k
  refine ⟨?_, fun v hv => ⟨?_, fun d hd => ?_⟩⟩
  · rw [hread, Url.read_text hg.normal]
    split
    · rename_i hgemini
      cases Url.readHost host.text with
      | error cause => simp [Except.map, hgemini]
      | ok host' => simp [Except.map]
    · rename_i hother
      exact iff_of_true ⟨_, rfl⟩ fun hgemini => absurd hgemini hother
  · rw [hv] at hread
    split at hread
    · rename_i hgemini
      obtain ⟨_, _, rfl⟩ := Outcome.map_eq_ok.mp hread.symm
      refine isAskedAt_iff (v := Url.withPair _ "key" c.target.apiKey) (u := u') rfl rfl fun hq => ?_
      simp only [Url.withPair, hq, ChatCase.query, if_pos hgemini]
      rfl
    · rename_i hother
      cases hread
      exact isAskedAt_iff (u := u') rfl rfl fun hq => by rw [hq, ChatCase.query, if_neg hother]
  · obtain ⟨_, _, _, hread, _, rfl⟩ := Transport.prepare_eq_ok.mp hd
    obtain rfl := Except.ok.inj (hv.symm.trans hread)
    rfl

/-- A chat by Gemini's protocol, as it is asked for by default in a group. -/
theorem chat_isAskedAt_default :
    let k : ChatCase := ⟨.gemini, .groupCompat "glm", "claude-haiku-4.5", .toolUse⟩
    ({} : Config).check = .ok () ∧ Url.read ({} : Config).baseUrl = .ok Config.localGateway ∧
    Config.localGateway.Bare ∧ ∃ v, Url.read (({} : Config).chatUrl k) = .ok v ∧
      k.IsAskedAt ({} : Config).target.apiKey v := by
  intro k
  have hg := Config.gateway_default
  have hb : Config.localGateway.Bare := ⟨rfl, rfl, rfl⟩
  have htext : Url.read Config.localGateway.text = .ok Config.localGateway := by
    rw [Url.read_text hg.normal, Host.text, Config.readHost_local]
    rfl
  have hplain : k.IsPlain := by
    have hall : ∀ segment ∈ k.segments, IsPlainName segment.text := by decide +kernel
    exact fun name hm => hall (.name name) hm
  obtain ⟨hreads, hasked⟩ := chat_isAskedAt_iff Config.check_default hg.read hb k
  obtain ⟨v, hv⟩ := hreads.mpr fun _ => ⟨_, htext⟩
  exact ⟨Config.check_default, hg.read, hb, v, hv, (hasked v hv).1.mpr hplain⟩

/-- A group with the mark of a query in its name. -/
def markedGroup : Config := { models := { groupName := "a?b" } }

/-- It may be used, and its chats do not arrive where they should. -/
theorem markedGroup_astray : markedGroup.check = .ok () ∧
    ∃ k ∈ markedGroup.chatCases .openAI, ∃ v, Url.read (markedGroup.chatUrl k) = .ok v ∧
      ¬k.IsAskedAt markedGroup.target.apiKey v := by
  have hc : markedGroup.check = .ok () := by
    refine Config.check_eq_ok.mpr
      ⟨by decide, by decide, by decide, by decide, by decide, ?_, by decide⟩
    exact ⟨Config.localGateway, Config.read_localGateway, Or.inl rfl⟩
  have hg : markedGroup.Gateway Config.localGateway (.domain "localhost".toList) :=
    ⟨Config.gateway_default.read, Config.gateway_default.normal⟩
  have hread := hg.read_chatUrl ⟨rfl, rfl, rfl⟩ ⟨.openAI, .group "a?b", "claude-haiku-4.5", .text⟩
  refine ⟨hc, _, ?_, _, hread, fun hasked => ?_⟩
  · decide
  · have hplain := (isAskedAt_iff (u := Config.localGateway) rfl rfl ?_).mp hasked
    · exact (hplain "a?b" (by decide)).delimiters '?' (by decide) (by decide)
    · exact fun hq => hq

end Conformance
