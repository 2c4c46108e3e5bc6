import Conformance.Proofs.Config.Accepted

/-! The addresses of requests: what is put behind the address of the gateway, and what the key makes
of them. -/
namespace Conformance

open Url (Host Normal Pieces EndsVisibly unbroken)

variable {c : Config} {u v : Url} {host : Host} {s key : String}

/-- What is put behind the address of a gateway. -/
structure Tail (s : String) : Prop where
  slash : s.toList.head? = some '/'
  visible : EndsVisibly s

theorem endsVisibly_of_getLast (h : s.toList.getLast?.any (0x20 < ·.toNat) = true) :
    EndsVisibly s := by
  obtain ⟨last, hlast, hl⟩ := (Option.any_eq_true _ _).mp h
  obtain ⟨front, hs⟩ := List.getLast?_eq_some_iff.mp hlast
  exact ⟨front, last, hs, of_decide_eq_true hl⟩

theorem endsVisibly_append {r : String} (h : EndsVisibly s) : EndsVisibly (r ++ s) := by
  obtain ⟨front, last, hs, hl⟩ := h
  exact ⟨r.toList ++ front, last, by rw [String.toList_append, hs, List.append_assoc], hl⟩

theorem Tail.unbroken_head (h : Tail s) : (unbroken s).head? = some '/' := by
  obtain ⟨more, hs⟩ := List.head?_eq_some_iff.mp h.slash
  rw [unbroken, hs]
  rfl

/-- A tail behind a route is a tail. -/
theorem Tail.route (h : Tail s) (route : Route) : Tail (route.path ++ s) where
  slash := by
    cases route with
    | default => simpa [Route.path] using h.slash
    | switch => simp [Route.path]
    | switchCompat => simp [Route.path]
    | group name => simp [Route.path]
    | groupCompat name => simp [Route.path]
  visible := endsVisibly_append h.visible

theorem Tail.append (h : s.toList.head? = some '/') {r : String} (hr : EndsVisibly r) :
    Tail (s ++ r) where
  slash := by
    obtain ⟨more, hs⟩ := List.head?_eq_some_iff.mp h
    rw [String.toList_append, hs]
    rfl
  visible := endsVisibly_append hr

theorem Tail.of_ends (h : s.toList.head? = some '/' ∧
    s.toList.getLast?.any (0x20 < ·.toNat) = true) : Tail s :=
  ⟨h.1, endsVisibly_of_getLast h.2⟩

theorem tail_endpoint (p : Protocol) : Tail p.chatEndpoint := by
  cases p <;> exact .of_ends (by decide)

/-- What Gemini is asked to do stands behind the name of a model. -/
def action (model verb : String) : String := "/v1beta/models/" ++ model ++ verb

theorem tail_action (model : String) {verb : String} (h : EndsVisibly verb) :
    Tail (action model verb) := by
  rw [action, String.append_assoc]
  exact Tail.append (by decide) (endsVisibly_append h)

/-! ### Reading -/

/-- The gateway's address with a tail is one on the same host. -/
theorem Config.Gateway.read_append (hg : c.Gateway u host) (ht : Tail s) :
    ∃ p : Pieces, Url.read (c.baseUrl ++ s) = .ok (p.complete u) ∧ Normal (p.complete u) host := by
  obtain ⟨p, hp⟩ := Url.read_append hg.read hg.normal.web c.endsInDigit_baseUrl ht.visible
    ht.unbroken_head
  refine ⟨p, hp, ?_⟩
  obtain ⟨host', hn⟩ := Normal.of_read hp hg.normal.web
  have hh : some host' = some host := hn.named.symm.trans hg.normal.named
  exact Option.some.inj hh ▸ hn

/-- Where the gateway has no path of its own, its address with a tail has that of the tail. -/
theorem Config.Gateway.read_bare (hg : c.Gateway u host) (hb : u.Bare) (ht : Tail s) :
    Url.read (c.baseUrl ++ s) = .ok (u.withTail (unbroken s)) ∧
      Normal (u.withTail (unbroken s)) host := by
  have hread := Url.read_append_bare hg.read hg.normal.web hb c.endsInDigit_baseUrl ht.visible
    ht.unbroken_head
  obtain ⟨p, hp, hn⟩ := hg.read_append ht
  have hw : p.complete u = u.withTail (unbroken s) := Except.ok.inj (hp.symm.trans hread)
  exact ⟨hread, hw ▸ hn⟩

theorem keyed_eq {url : String} (h : Url.read url = .ok v) :
    Gemini.keyed url key = (v.withPair "key" key).text := by
  rw [Gemini.keyed, Gemini.attach, h]

/-- No key fails to be put into an address at the gateway, so that the log says nothing of one. -/
theorem Config.Gateway.attach_silent (hg : c.Gateway u host) (ht : Tail s) (key : String) :
    (Gemini.attach (c.baseUrl ++ s) key).2 = none := by
  obtain ⟨p, hp, _⟩ := hg.read_append ht
  rw [Gemini.attach, hp]

/-- With a key an address reads as itself with the pair, if its host reads at all. -/
theorem read_keyed {url : String} (h : Url.read url = .ok v) (hn : Normal v host) (key : String) :
    Url.read (Gemini.keyed url key) = (Url.readHost host.text).map fun _ => v.withPair "key" key := by
  rw [keyed_eq h]
  exact Url.read_text (hn.withPair "key" key)

/-- What a chat request puts behind a route. -/
def Protocol.chatAction (model : String) : Protocol → String
  | gemini => action model ":generateContent"
  | p => p.chatEndpoint

/-- What a chat request puts behind the address of the gateway. -/
def Protocol.chatTail (p : Protocol) (route : Route) (model : String) : String :=
  route.path ++ p.chatAction model

theorem tail_chat (p : Protocol) (route : Route) (model : String) :
    Tail (p.chatTail route model) := by
  cases p with
  | gemini =>
    exact (tail_action model (endsVisibly_of_getLast (by decide))).route route
  | openAI => exact (tail_endpoint .openAI).route route
  | claude => exact (tail_endpoint .claude).route route
  | ollama => exact (tail_endpoint .ollama).route route

theorem generateUrl_eq (base model key : String) (route : Route) :
    Gemini.generateUrl base route.path model key =
      Gemini.keyed (base ++ (route.path ++ action model ":generateContent")) key := by
  simp only [Gemini.generateUrl, action, String.append_assoc]

theorem chatUrl_eq (p : Protocol) (base : String) (route : Route) (model key : String) :
    p.chatUrl base route model key =
      if p = .gemini then Gemini.keyed (base ++ p.chatTail route model) key
      else base ++ p.chatTail route model := by
  cases p with
  | gemini => exact generateUrl_eq base model key route
  | openAI => exact String.append_assoc
  | claude => exact String.append_assoc
  | ollama => exact String.append_assoc

theorem embedUrl_eq (base model key : String) :
    Gemini.embedUrl base model key = Gemini.keyed (base ++ action model ":embedContent") key := by
  simp only [Gemini.embedUrl, action, String.append_assoc]

end Conformance
