import Conformance.Proofs.Request.Address
import Conformance.Proofs.Request.Delivery
import Conformance.Proofs.Sweep.Outline

/-! Whom the requests of a run are sent to. The address of the gateway alone decides it. -/
namespace Conformance

open Url (Host)

variable {c : Config} {u v : Url} {host : Host} {plan : Plan} {k : Case}

/-! ### Addresses of cases -/

/-- The gateway's address with a tail. Gemini has the key in it as well. -/
def Config.address (c : Config) (p : Protocol) (s : String) : String :=
  if p = .gemini then Gemini.keyed (c.baseUrl ++ s) c.target.apiKey else c.baseUrl ++ s

theorem Config.address_gemini (c : Config) (s : String) :
    c.address .gemini s = Gemini.keyed (c.baseUrl ++ s) c.target.apiKey := if_pos rfl

theorem Config.address_plain (c : Config) {p : Protocol} (hp : p ≠ .gemini) (s : String) :
    c.address p s = c.baseUrl ++ s := if_neg hp

namespace Plan

/-- The case is at the gateway's address with a tail. -/
def Addressed (c : Config) (k : Case) : Prop :=
  ∃ s, Tail s ∧ k.request.url = c.address k.id.protocol s

theorem addressed_plain {s : String} (hs : Tail s) (hp : k.id.protocol ≠ .gemini)
    (hurl : k.request.url = c.baseUrl ++ s) : Addressed c k :=
  ⟨s, hs, hurl.trans (c.address_plain hp s).symm⟩

theorem addressed_gemini {s : String} (hs : Tail s) (hp : k.id.protocol = .gemini)
    (hurl : k.request.url = Gemini.keyed (c.baseUrl ++ s) c.target.apiKey) : Addressed c k := by
  refine ⟨s, hs, ?_⟩
  rw [hp, c.address_gemini, hurl]

theorem listings_addressed (hk : k ∈ c.listings) : Addressed c k := by
  have hopen : Protocol.openAI ≠ .gemini := by decide
  have hollama : Protocol.ollama ≠ .gemini := by decide
  have hmodels : Tail "/v1/models" := .of_ends (by decide)
  have hgroup : Tail ("/" ++ c.models.groupName ++ "/v1/models") :=
    hmodels.route (.group c.models.groupName)
  simp only [Config.listings, List.mem_cons, List.not_mem_nil, or_false] at hk
  obtain rfl | rfl | rfl | rfl | rfl := hk
  · exact addressed_plain hmodels hopen rfl
  · exact addressed_plain (.of_ends (s := "/api/tags") (by decide)) hollama rfl
  · exact addressed_gemini (tail_endpoint .gemini) rfl
      (by simp only [Config.listing, Config.probe, Case.request_url, Gemini.modelsUrl,
        Protocol.chatEndpoint])
  · exact addressed_plain hgroup hopen (by simp [Config.listing, Config.probe, String.append_assoc])
  · exact addressed_plain (.of_ends (s := "/switch/v1/models") (by decide)) hopen rfl

theorem embeddings_addressed (hk : k ∈ c.embeddings) : Addressed c k := by
  have hopen : Protocol.openAI ≠ .gemini := by decide
  have hollama : Protocol.ollama ≠ .gemini := by decide
  have hgemini : Tail (action c.models.embed ":embedContent") :=
    tail_action _ (endsVisibly_of_getLast (by decide))
  simp only [Config.embeddings, List.mem_cons, List.not_mem_nil, or_false] at hk
  obtain rfl | rfl | rfl := hk
  · exact addressed_plain (.of_ends (s := "/v1/embeddings") (by decide)) hopen rfl
  · exact addressed_gemini hgemini rfl
      (by simp only [Config.embedding, Config.probe, Case.request_url, embedUrl_eq])
  · exact addressed_plain (.of_ends (s := "/api/embed") (by decide)) hollama rfl

/-- Every case of a plan is at the gateway's address with a tail. -/
theorem case_addressed (hk : k ∈ plan.cases c) : Addressed c k := by
  obtain ⟨suite, _, hk⟩ := List.mem_flatMap.mp hk
  cases suite with
  | models => exact listings_addressed (List.mem_filter.mp hk).1
  | embeddings => exact embeddings_addressed (List.mem_filter.mp hk).1
  | chat =>
    obtain ⟨p, _, hk⟩ := List.mem_flatMap.mp hk
    rw [chats_eq] at hk
    obtain ⟨chat, _, rfl⟩ := List.mem_map.mp hk
    exact ⟨_, tail_chat chat.protocol chat.route chat.model, chatUrl_eq _ _ _ _ _⟩

end Plan

/-! ### Origins -/

/-- Two addresses at which the same server is asked in the same name. -/
structure Url.SameOrigin (v u : Url) : Prop where
  scheme : v.scheme = u.scheme
  username : v.username = u.username
  password : v.password = u.password
  host : v.host = u.host
  port : v.port = u.port

/-- Wherever the address of a case can be read, it is one of the gateway. -/
theorem Config.Gateway.sameOrigin_of_case (hg : c.Gateway u host) (hk : k ∈ plan.cases c)
    (hv : Url.read k.request.url = .ok v) : v.SameOrigin u := by
  obtain ⟨s, hs, hurl⟩ := Plan.case_addressed hk
  obtain ⟨p, hp, hn⟩ := hg.read_append hs
  by_cases hgemini : k.id.protocol = .gemini
  · rw [hurl, hgemini, c.address_gemini, read_keyed hp hn] at hv
    obtain ⟨_, _, rfl⟩ := Outcome.map_eq_ok.mp hv
    exact ⟨rfl, rfl, rfl, rfl, rfl⟩
  · rw [hurl, c.address_plain hgemini, hp] at hv
    cases hv
    exact ⟨rfl, rfl, rfl, rfl, rfl⟩

/-- Every request that goes out goes to the gateway. -/
theorem Config.Gateway.sameOrigin_of_delivery (hg : c.Gateway u host) (hk : k ∈ plan.cases c)
    {d : Transport.Delivery} (hd : Transport.prepare k.request = .ok d) : d.url.SameOrigin u := by
  obtain ⟨headers, v, _, hv, _, rfl⟩ := Transport.prepare_eq_ok.mp hd
  exact { hg.sameOrigin_of_case hk hv with }

end Conformance
