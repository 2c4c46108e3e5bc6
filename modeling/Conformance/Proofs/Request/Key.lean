import Conformance.Proofs.Request.Address

/-! The key in the addresses of Gemini's requests. Whatever it consists of, a form decoder gets it
back from the query, and no other part of an address changes with it. -/
namespace Conformance

open Url (Host Normal Pieces piecesOf utf8)

variable {c : Config} {u : Url} {host : Host}

/-- The text `keyed` is that of `u` with the key behind the pairs of the query. It is cut into the
same pieces otherwise, and it reads as `u` with that query wherever the text of `u` reads at all. -/
def CarriesKey (key : String) (u : Url) (keyed : String) : Prop :=
  ∃ q p, Url.Form.pairs q =
      Url.Form.pairs (u.query.getD []) ++ [(utf8 "key".toList, utf8 key.toList)] ∧
    p.query = u.query ∧ piecesOf u.text = some (u.scheme, p) ∧
    piecesOf keyed = some (u.scheme, { p with query := some q }) ∧
    Url.read keyed = (Url.read u.text).map fun _ => { u with query := some q }

theorem withPair_carries_key (hn : Normal u host) (key : String) :
    CarriesKey key u (u.withPair "key" key).text := by
  have hk : Normal (u.withPair "key" key) host := hn.withPair "key" key
  refine ⟨_, _, Url.Form.pairs_append _ _ _, ?_, Url.piecesOf_text hn, Url.piecesOf_text hk, ?_⟩
  · rfl
  · rw [Url.read_text hk, Url.read_text hn]
    cases Url.readHost host.text <;> rfl

theorem keyed_carries_key (hg : c.Gateway u host) {s : String} (hs : Tail s) (key : String) :
    ∃ v, Url.read (c.baseUrl ++ s) = .ok v ∧
      CarriesKey key v (Gemini.keyed (c.baseUrl ++ s) key) := by
  obtain ⟨p, hp, hn⟩ := hg.read_append hs
  exact ⟨_, hp, keyed_eq hp ▸ withPair_carries_key hn key⟩

/-- Every address of Gemini carries the key exactly: for chats on any route, for embeddings and for
listings, and whatever the names of models and groups put into the address. -/
theorem geminiUrls_carry_key (h : c.check = .ok ()) (key : String) :
    (∀ (route : Route) (model : String), ∃ u,
      Url.read (c.baseUrl ++ route.path ++ "/v1beta/models/" ++ model ++ ":generateContent") =
        .ok u ∧
      CarriesKey key u (Gemini.generateUrl c.baseUrl route.path model key)) ∧
    (∀ model : String, ∃ u,
      Url.read (c.baseUrl ++ "/v1beta/models/" ++ model ++ ":embedContent") = .ok u ∧
      CarriesKey key u (Gemini.embedUrl c.baseUrl model key)) ∧
    ∃ u, Url.read (c.baseUrl ++ "/v1beta/models") = .ok u ∧
      CarriesKey key u (Gemini.modelsUrl c.baseUrl key) := by
  obtain ⟨u, host, hg⟩ := Config.gateway_of_check h
  have hgenerate : Url.EndsVisibly ":generateContent" := endsVisibly_of_getLast (by decide)
  have hembed : Url.EndsVisibly ":embedContent" := endsVisibly_of_getLast (by decide)
  refine ⟨fun route model => ?_, fun model => ?_, ?_⟩
  · have hs := keyed_carries_key hg ((tail_action model hgenerate).route route) key
    rw [← generateUrl_eq] at hs
    simpa only [action, String.append_assoc] using hs
  · have hs := keyed_carries_key hg (tail_action model hembed) key
    rw [← embedUrl_eq] at hs
    simpa only [action, String.append_assoc] using hs
  · exact keyed_carries_key hg (tail_endpoint .gemini) key

/-- On the compatibility route of a group whose name makes a query and a fragment. -/
theorem geminiUrls_carry_key_default : ({} : Config).check = .ok () ∧ ∃ u,
    Url.read (({} : Config).baseUrl ++ (Route.groupCompat "a?b=c#d").path ++
      "/v1beta/models/" ++ "m" ++ ":generateContent") = .ok u ∧
    CarriesKey "k&y =+%" u
      (Gemini.generateUrl ({} : Config).baseUrl (Route.groupCompat "a?b=c#d").path "m"
        "k&y =+%") :=
  ⟨Config.check_default,
    (geminiUrls_carry_key Config.check_default "k&y =+%").1 (.groupCompat "a?b=c#d") "m"⟩

end Conformance
