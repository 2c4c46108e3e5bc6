import Conformance.Proofs.Request.Delivery
import Conformance.Transport.Redirect

/-! Redirects and a key. Two deliveries that differ in nothing but the key are sent on alike, by
servers that do not look at it; what they are told of where the client comes from differs in the key
as well. -/
namespace Conformance

open List (Forall₂)

/-! ### Addresses -/

section Addresses

variable {k₁ k₂ : String} {v₁ v₂ : Url}

/-- One address without a key, or with the one and the other. -/
def SameAddress (k₁ k₂ : String) (v₁ v₂ : Url) : Prop :=
  v₁ = v₂ ∨ ∃ w : Url, v₁ = w.withPair "key" k₁ ∧ v₂ = w.withPair "key" k₂

theorem SameAddress.scheme (h : SameAddress k₁ k₂ v₁ v₂) : v₁.scheme = v₂.scheme := by
  obtain rfl | ⟨w, rfl, rfl⟩ := h <;> rfl

theorem SameAddress.host (h : SameAddress k₁ k₂ v₁ v₂) : v₁.host = v₂.host := by
  obtain rfl | ⟨w, rfl, rfl⟩ := h <;> rfl

theorem SameAddress.port (h : SameAddress k₁ k₂ v₁ v₂) : v₁.effectivePort = v₂.effectivePort := by
  obtain rfl | ⟨w, rfl, rfl⟩ := h <;> rfl

theorem SameAddress.requested (h : SameAddress k₁ k₂ v₁ v₂) :
    SameAddress k₁ k₂ v₁.requested v₂.requested := by
  obtain rfl | ⟨w, rfl, rfl⟩ := h
  · exact .inl rfl
  · exact .inr ⟨w.requested, rfl, rfl⟩

theorem SameAddress.withoutCredentials (h : SameAddress k₁ k₂ v₁ v₂) :
    SameAddress k₁ k₂ v₁.withoutCredentials v₂.withoutCredentials := by
  obtain rfl | ⟨w, rfl, rfl⟩ := h
  · exact .inl rfl
  · refine .inr ⟨w.withoutCredentials, ?_, ?_⟩
    · exact w.withoutCredentials_withPair "key" k₁
    · exact w.withoutCredentials_withPair "key" k₂

theorem SameAddress.credentials (h : SameAddress k₁ k₂ v₁ v₂) :
    v₁.credentials? = v₂.credentials? := by
  obtain rfl | ⟨w, rfl, rfl⟩ := h <;> rfl

theorem SameAddress.withoutQuery (h : SameAddress k₁ k₂ v₁ v₂) :
    { v₁ with query := none } = { v₂ with query := none } := by
  obtain rfl | ⟨w, rfl, rfl⟩ := h <;> rfl

end Addresses

/-! ### References -/

namespace Url

/-- A pair in the query makes no difference, unless the query is kept. -/
theorem joinRelative_withPair (base : Url) (name : String) (cs : List Char) :
    (∀ value₁ value₂ : String, joinRelative (base.withPair name value₁) cs =
      joinRelative (base.withPair name value₂) cs) ∨
    ∃ fragment, ∀ value : String, joinRelative (base.withPair name value) cs =
      .ok ({ base with fragment := fragment }.withPair name value) := by
  unfold joinRelative
  generalize cutMarked '#' cs = pair
  obtain ⟨rest, fragment⟩ := pair
  cases hrest : rest.isEmpty with
  | true =>
    simp only [hrest, if_true]
    exact .inr ⟨fragment.map (percentEncode keptInFragment), fun _ => rfl⟩
  | false =>
    refine .inl fun value₁ value₂ => ?_
    simp only [hrest, Bool.false_eq_true, if_false]
    generalize cutMarked '?' rest = pair
    obtain ⟨way, query⟩ := pair
    unfold joinHierarchy
    split <;> rfl

theorem join_withPair (base : Url) (name reference : String) :
    (∀ value₁ value₂ : String, join (base.withPair name value₁) reference =
      join (base.withPair name value₂) reference) ∨
    ∃ fragment, ∀ value : String, join (base.withPair name value) reference =
      .ok ({ base with fragment := fragment }.withPair name value) := by
  unfold join
  cases cutScheme (significant reference) with
  | none => exact joinRelative_withPair base name _
  | some cut =>
    obtain ⟨scheme, rest⟩ := cut
    have hscheme : ∀ value : String, (base.withPair name value).scheme = base.scheme := fun _ => rfl
    simp only [hscheme]
    split
    · exact joinRelative_withPair base name rest
    · exact .inl fun _ _ => rfl

end Url

namespace Transport

/-- A place that is read from an address leaves its query out or keeps it as it is. -/
def KeepsQuery (resolve : Resolver) : Prop :=
  ∀ (w : Url) (name value₁ value₂ location : String), w.fragment = none →
    resolve (w.withPair name value₁) location = resolve (w.withPair name value₂) location ∨
    ∃ fragment,
      resolve (w.withPair name value₁) location =
        some ({ w with fragment := fragment }.withPair name value₁) ∧
      resolve (w.withPair name value₂) location =
        some ({ w with fragment := fragment }.withPair name value₂)

theorem keepsQuery_resolveReference : KeepsQuery resolveReference := by
  intro w name value₁ value₂ location _
  obtain hsame | ⟨fragment, hkept⟩ := Url.join_withPair w name location
  · exact .inl (congrArg Except.toOption (hsame value₁ value₂))
  · exact .inr ⟨fragment, congrArg Except.toOption (hkept value₁),
      congrArg Except.toOption (hkept value₂)⟩

/-! ### What servers see -/

section Servers

variable {σ : Type}

/-- Failures of one kind, which may be put in other words. -/
inductive Failure.Alike : Failure → Failure → Prop where
  | same (f : Failure) : Failure.Alike f f
  | connection (a b : String) : Failure.Alike (.connection a) (.connection b)
  | request (a b : String) : Failure.Alike (.request a) (.request b)
  | unreadBody (a b : String) : Failure.Alike (.unreadBody a) (.unreadBody b)

/-- The same outcome, or failures of one kind. -/
inductive SameOutcome {α : Type} (R : α → α → Prop) :
    Except Failure α → Except Failure α → Prop where
  | ok {a b : α} (h : R a b) : SameOutcome R (.ok a) (.ok b)
  | error {f g : Failure} (h : f.Alike g) : SameOutcome R (.error f) (.error g)

structure SameAnswer (a b : Answer) : Prop where
  status : a.status = b.status
  location : a.location = b.location
  body : SameOutcome Eq a.body b.body

/-- Servers that look at nothing but method, address without query, and body. -/
def KeyBlind (answer : Delivery → StateM σ (Except Failure Answer)) : Prop :=
  ∀ (d₁ d₂ : Delivery) (s : σ), d₁.method = d₂.method →
    { d₁.url with query := none } = { d₂.url with query := none } → d₁.body = d₂.body →
    SameOutcome SameAnswer (answer d₁ s).1 (answer d₂ s).1 ∧ (answer d₁ s).2 = (answer d₂ s).2

/-- A place that servers send clients to. -/
def Gives (answer : Delivery → StateM σ (Except Failure Answer)) (location : String) : Prop :=
  ∃ d s a, (answer d s).1 = .ok a ∧ a.location = some location

/-- The same servers, with all that they are asked for written down. -/
def recorded (answer : Delivery → StateM σ (Except Failure Answer)) (d : Delivery) :
    StateM (σ × List Delivery) (Except Failure Answer) := fun s =>
  ((answer d s.1).1, (answer d s.1).2, s.2 ++ [d])

/-- There is room for the address in a request line. -/
def HasRoom (u : Url) : Prop := u.text.utf8ByteSize ≤ maxUrlBytes

theorem fitsLine_same {k₁ k₂ : String} {v₁ v₂ : Url} (h : SameAddress k₁ k₂ v₁ v₂)
    (hroom : HasRoom v₁ ↔ HasRoom v₂) : fitsLine v₁ = fitsLine v₂ := by
  unfold HasRoom at hroom
  rw [fitsLine, fitsLine, h.host, decide_eq_decide.mpr hroom]

/-- Wherever servers send the client from these addresses, there is room for both or for none. -/
def RoomOnward (resolve : Resolver) (answer : Delivery → StateM σ (Except Failure Answer))
    (u₁ u₂ : Url) : Prop :=
  ∀ location, Gives answer location → ∀ v₁ v₂, resolve u₁ location = some v₁ →
    resolve u₂ location = some v₂ → (HasRoom v₁ ↔ HasRoom v₂)

end Servers

/-! ### Headers -/

section Headers

variable {k₁ k₂ : String} {headers₁ headers₂ : Headers} {u₁ u₂ v₁ v₂ : Url}

/-- One header, of which the value is the same unless it holds a key or the address that the client
comes from. -/
def SameOrReferer (k₁ k₂ : String) (a b : String × String) : Prop :=
  SameHeader a b ∨ ∃ u₁ u₂ : Url, SameAddress k₁ k₂ u₁ u₂ ∧ a = ("referer", u₁.text) ∧
    b = ("referer", u₂.text)

theorem SameOrReferer.name {a b : String × String} (h : SameOrReferer k₁ k₂ a b) : a.1 = b.1 := by
  obtain h | ⟨_, _, _, rfl, rfl⟩ := h
  · exact h.1
  · rfl

theorem names_same (h : Forall₂ (SameOrReferer k₁ k₂) headers₁ headers₂) :
    headers₁.map Prod.fst = headers₂.map Prod.fst := by
  induction h with
  | nil => rfl
  | cons hab _ ih => rw [List.map_cons, List.map_cons, hab.name, ih]

theorem filter_same (keep : String → Bool) (h : Forall₂ (SameOrReferer k₁ k₂) headers₁ headers₂) :
    Forall₂ (SameOrReferer k₁ k₂) (headers₁.filter fun h => keep h.1)
      (headers₂.filter fun h => keep h.1) :=
  List.rel_filter (fun a b hab => by
    show keep a.1 = true ↔ keep b.1 = true
    rw [hab.name]) h

theorem referer_same (hu : SameAddress k₁ k₂ u₁ u₂) (hv : SameAddress k₁ k₂ v₁ v₂) :
    referer? u₁ v₁ = none ∧ referer? u₂ v₂ = none ∨
      ∃ w₁ w₂ : Url, SameAddress k₁ k₂ w₁ w₂ ∧ referer? u₁ v₁ = some w₁.text ∧
        referer? u₂ v₂ = some w₂.text := by
  unfold referer?
  rw [hu.scheme, hv.scheme]
  split
  · exact .inl ⟨rfl, rfl⟩
  · exact .inr ⟨_, _, hu.requested, rfl, rfl⟩

end Headers

/-! ### Deliveries -/

section Deliveries

variable {σ : Type} {resolve : Resolver} {answer : Delivery → StateM σ (Except Failure Answer)}
  {k₁ k₂ : String} {u₁ u₂ : Url} {d₁ d₂ : Delivery} {a b : Answer}

/-- Two deliveries that differ in the value of a header that carries a key, in the pair that carries
it, and in the address the client comes from if that has the pair. -/
structure SameButKey (k₁ k₂ : String) (d₁ d₂ : Delivery) : Prop where
  method : d₁.method = d₂.method
  url : SameAddress k₁ k₂ d₁.url d₂.url
  headers : Forall₂ (SameOrReferer k₁ k₂) d₁.headers d₂.headers
  body : d₁.body = d₂.body

theorem SameButKey.requested (h : SameButKey k₁ k₂ d₁ d₂) :
    SameButKey k₁ k₂ d₁.requested d₂.requested :=
  ⟨h.method, h.url.requested, h.headers, h.body⟩

theorem SameButKey.signed (h : SameButKey k₁ k₂ d₁ d₂) :
    SameButKey k₁ k₂ d₁.signed d₂.signed where
  method := h.method
  url := h.url.withoutCredentials
  headers := by
    rw [Delivery.signed, Delivery.signed, credentialHeaders, credentialHeaders, h.url.credentials,
      names_same h.headers]
    refine List.rel_append (List.forall₂_same.mpr fun x _ => ?_) h.headers
    exact .inl ⟨rfl, .inl rfl⟩
  body := h.body

theorem SameButKey.fetched (h : SameButKey k₁ k₂ d₁ d₂) :
    SameButKey k₁ k₂ d₁.fetched d₂.fetched where
  method := by rw [Delivery.fetched, Delivery.fetched, h.method]
  url := h.url
  headers := filter_same (fun name => !contentNames.contains name) h.headers
  body := rfl

theorem SameButKey.sentOn (h : SameButKey k₁ k₂ d₁ d₂) (hu : SameAddress k₁ k₂ u₁ u₂) :
    SameButKey k₁ k₂ (d₁.sentOn u₁) (d₂.sentOn u₂) where
  method := h.method
  url := hu
  headers := by
    have hhost : isSameHost d₁.url u₁ = isSameHost d₂.url u₂ := by
      rw [isSameHost, isSameHost, h.url.host, h.url.port, hu.host, hu.port]
    have hkept : Forall₂ (SameOrReferer k₁ k₂)
        (if isSameHost d₁.url u₁ then d₁.headers
          else d₁.headers.filter fun h => !secretNames.contains h.1)
        (if isSameHost d₂.url u₂ then d₂.headers
          else d₂.headers.filter fun h => !secretNames.contains h.1) := by
      rw [hhost]
      split
      · exact h.headers
      · exact filter_same (fun name => !secretNames.contains name) h.headers
    unfold Delivery.sentOn
    obtain ⟨h₁, h₂⟩ | ⟨w₁, w₂, hw, h₁, h₂⟩ := referer_same h.url hu
    · simpa only [h₁, h₂] using hkept
    · simp only [h₁, h₂]
      exact setHeader_rel (fun _ _ h => h.name) hkept (.inr ⟨w₁, w₂, hw, rfl, rfl⟩)
  body := h.body

/-- Two addresses which stay the same but for the key, however often the client is sent on. -/
inductive Steady (resolve : Resolver) (answer : Delivery → StateM σ (Except Failure Answer))
    (k₁ k₂ : String) : Url → Url → Prop where
  | same (u : Url) : Steady resolve answer k₁ k₂ u u
  | keyed (w : Url) (fragment : Option (List Char)) (hw : w.fragment = none)
      (room : RoomOnward resolve answer (w.withPair "key" k₁) (w.withPair "key" k₂)) :
      Steady resolve answer k₁ k₂ ({ w with fragment := fragment }.withPair "key" k₁)
        ({ w with fragment := fragment }.withPair "key" k₂)

theorem Steady.sameAddress (h : Steady resolve answer k₁ k₂ u₁ u₂) : SameAddress k₁ k₂ u₁ u₂ := by
  cases h with
  | same => exact .inl rfl
  | keyed w fragment _ _ => exact .inr ⟨_, rfl, rfl⟩

/-- What a place comes to, read from the one address and from the other. -/
theorem Steady.resolved (h : Steady resolve answer k₁ k₂ u₁ u₂) (hr : KeepsQuery resolve)
    {location : String} (hg : Gives answer location) :
    resolve { u₁ with fragment := none } location = none ∧
        resolve { u₂ with fragment := none } location = none ∨
      ∃ v₁ v₂, resolve { u₁ with fragment := none } location = some v₁ ∧
        resolve { u₂ with fragment := none } location = some v₂ ∧
        Steady resolve answer k₁ k₂ v₁ v₂ ∧ fitsLine v₁ = fitsLine v₂ := by
  cases h with
  | same =>
    cases hv : resolve { u₁ with fragment := none } location with
    | none => exact .inl ⟨rfl, rfl⟩
    | some v => exact .inr ⟨v, v, rfl, rfl, .same v, rfl⟩
  | keyed w fragment hw room =>
    have hbase : ∀ k : String,
        { ({ w with fragment := fragment }.withPair "key" k) with fragment := none } =
          w.withPair "key" k := fun k => by rw [Url.withPair, Url.withPair, hw]
    rw [hbase, hbase]
    obtain hsame | ⟨f, h₁, h₂⟩ := hr w "key" k₁ k₂ location hw
    · rw [hsame]
      cases hv : resolve (w.withPair "key" k₂) location with
      | none => exact .inl ⟨rfl, rfl⟩
      | some v => exact .inr ⟨v, v, rfl, rfl, .same v, rfl⟩
    · refine .inr ⟨_, _, h₁, h₂, .keyed w f hw room, ?_⟩
      exact fitsLine_same (.inr ⟨_, rfl, rfl⟩) (room location hg _ _ h₁ h₂)

/-- The answers send the client on alike or not at all. -/
theorem onward_same (hr : KeepsQuery resolve) (h : SameButKey k₁ k₂ d₁ d₂)
    (hu : Steady resolve answer k₁ k₂ d₁.url d₂.url) (hab : SameAnswer a b)
    (hg : ∀ location, a.location = some location → Gives answer location) :
    onward? resolve d₁ a = none ∧ onward? resolve d₂ b = none ∨
      ∃ e₁ e₂, onward? resolve d₁ a = some e₁ ∧ onward? resolve d₂ b = some e₂ ∧
        SameButKey k₁ k₂ e₁ e₂ ∧ Steady resolve answer k₁ k₂ e₁.url e₂.url := by
  unfold onward?
  rw [← hab.location, ← hab.status]
  cases hl : a.location with
  | none => exact .inl ⟨rfl, rfl⟩
  | some location =>
    simp only [Option.bind_eq_bind, Option.bind_some]
    obtain ⟨h₁, h₂⟩ | ⟨v₁, v₂, h₁, h₂, hv, hfits⟩ := hu.resolved hr (hg location hl)
    · rw [h₁, h₂]
      exact .inl ⟨rfl, rfl⟩
    · rw [h₁, h₂, Option.bind_some, Option.bind_some, hfits, ← h.method]
      cases isRedirect a.status && fitsLine v₂ with
      | false => exact .inl ⟨rfl, rfl⟩
      | true =>
        refine .inr ⟨_, _, rfl, rfl, ?_, hv⟩
        split
        · exact h.fetched.sentOn hv.sameAddress
        · exact h.sentOn hv.sameAddress

end Deliveries

/-! ### Following -/

section Following

variable {σ : Type} {resolve : Resolver} {answer : Delivery → StateM σ (Except Failure Answer)}
  {k₁ k₂ : String} {d₁ d₂ : Delivery} {s t : σ × List Delivery}

/-- Servers in one state, which were asked for the same but for the key. -/
structure SameMemory (k₁ k₂ : String) (s t : σ × List Delivery) : Prop where
  state : s.1 = t.1
  asked : Forall₂ (SameButKey k₁ k₂) s.2 t.2

/-- One request under both keys. -/
theorem recorded_same (hb : KeyBlind answer) (h : SameButKey k₁ k₂ d₁ d₂)
    (hs : SameMemory k₁ k₂ s t) :
    SameOutcome SameAnswer (recorded answer d₁ s).1 (recorded answer d₂ t).1 ∧
      SameMemory k₁ k₂ (recorded answer d₁ s).2 (recorded answer d₂ t).2 := by
  obtain ⟨houtcome, hstate⟩ := hb d₁ d₂ s.1 h.method h.url.withoutQuery h.body
  rw [hs.state] at houtcome hstate
  refine ⟨?_, ?_, List.rel_append hs.asked (.cons h .nil)⟩
  · rw [recorded, recorded, hs.state]
    exact houtcome
  · rw [recorded, recorded, hs.state]
    exact hstate

/-- Two outcomes of one delivery under both keys. -/
def SameEnds (k₁ k₂ : String) (x y : Except Failure Response × σ × List Delivery) : Prop :=
  SameOutcome Eq x.1 y.1 ∧ SameMemory k₁ k₂ x.2 y.2

/-- What is done about the next delivery when the client may be sent on so many times. -/
def goOn (resolve : Resolver) (answer : Delivery → StateM (σ × List Delivery) (Except Failure Answer))
    (previous : Url) : Nat → Delivery → StateM (σ × List Delivery) (Except Failure Response)
  | 0, _ => pure (.error (tooManyRedirects previous))
  | left + 1, next =>
    if isWeb next.url then follow resolve answer left next
    else pure (.error (badScheme next.url))

theorem follow_eq (answer : Delivery → StateM (σ × List Delivery) (Except Failure Answer))
    (left : Nat) (d : Delivery) (s : σ × List Delivery) : follow resolve answer left d s =
      match answer d.requested s with
      | (.error failure, s) => (.error failure, s)
      | (.ok a, s) =>
        match onward? resolve d a with
        | none => (a.result, s)
        | some next => goOn resolve answer d.url left next s := by
  unfold follow
  simp only [bind, StateT.bind]
  generalize answer d.requested s = x
  obtain ⟨outcome, s'⟩ := x
  cases outcome with
  | error failure => rfl
  | ok a =>
    simp only
    cases onward? resolve d a with
    | none => rfl
    | some next => cases left <;> rfl

/-- One turn is the same under both keys if what follows it is. -/
theorem turn_same (hr : KeepsQuery resolve) (hb : KeyBlind answer) (left : Nat)
    (hgo : ∀ {e₁ e₂ : Delivery} {s t : σ × List Delivery}, SameButKey k₁ k₂ e₁ e₂ →
      Steady resolve answer k₁ k₂ e₁.url e₂.url → SameMemory k₁ k₂ s t →
      SameEnds k₁ k₂ (goOn resolve (recorded answer) d₁.url left e₁ s)
        (goOn resolve (recorded answer) d₂.url left e₂ t))
    (h : SameButKey k₁ k₂ d₁ d₂) (hu : Steady resolve answer k₁ k₂ d₁.url d₂.url)
    (hs : SameMemory k₁ k₂ s t) :
    SameEnds k₁ k₂ (follow resolve (recorded answer) left d₁ s)
      (follow resolve (recorded answer) left d₂ t) := by
  obtain ⟨hanswer, hmemory⟩ := recorded_same hb h.requested hs
  have hgives : ∀ a, (recorded answer d₁.requested s).1 = .ok a →
      ∀ location, a.location = some location → Gives answer location :=
    fun a ha location hl => ⟨_, _, a, ha, hl⟩
  rw [follow_eq, follow_eq]
  generalize recorded answer d₁.requested s = x at hanswer hmemory hgives ⊢
  generalize recorded answer d₂.requested t = y at hanswer hmemory ⊢
  obtain ⟨answer₁, s'⟩ := x
  obtain ⟨answer₂, t'⟩ := y
  cases hanswer with
  | error hf => exact ⟨.error hf, hmemory⟩
  | @ok a b hab =>
    simp only
    obtain ⟨h₁, h₂⟩ | ⟨e₁, e₂, h₁, h₂, he, hue⟩ := onward_same hr h hu hab (hgives a rfl)
    · rw [h₁, h₂]
      refine ⟨?_, hmemory⟩
      have hbody := hab.body
      rw [Answer.result, Answer.result, hab.status]
      generalize a.body = text at hbody ⊢
      generalize b.body = text' at hbody ⊢
      cases hbody with
      | ok hsame => exact .ok (congrArg _ hsame)
      | error hf => exact .error hf
    · rw [h₁, h₂]
      exact hgo he hue hmemory

/-- However often the client is sent on, it is sent on alike under both keys. -/
theorem follow_same (hr : KeepsQuery resolve) (hb : KeyBlind answer) (left : Nat)
    (h : SameButKey k₁ k₂ d₁ d₂) (hu : Steady resolve answer k₁ k₂ d₁.url d₂.url)
    (hs : SameMemory k₁ k₂ s t) :
    SameEnds k₁ k₂ (follow resolve (recorded answer) left d₁ s)
      (follow resolve (recorded answer) left d₂ t) := by
  induction left generalizing d₁ d₂ s t with
  | zero => exact turn_same hr hb 0 (fun _ _ hs => ⟨.error (.request _ _), hs⟩) h hu hs
  | succ left ih =>
    refine turn_same hr hb (left + 1) (fun {e₁ e₂ s t} he hue hs => ?_) h hu hs
    have hweb : isWeb e₁.url = isWeb e₂.url := by
      rw [isWeb, isWeb, he.url.scheme]
    rw [goOn, goOn, hweb]
    split
    · exact ih he hue hs
    · exact ⟨.error (.request _ _), hs⟩

theorem fetch_same (hr : KeepsQuery resolve) (hb : KeyBlind answer) (limit : Nat)
    (h : SameButKey k₁ k₂ d₁ d₂) (hu : Steady resolve answer k₁ k₂ d₁.signed.url d₂.signed.url)
    (hs : SameMemory k₁ k₂ s t) :
    SameEnds k₁ k₂ (fetch resolve limit (recorded answer) d₁ s)
      (fetch resolve limit (recorded answer) d₂ t) :=
  follow_same hr hb limit h.signed hu hs

end Following

end Transport

end Conformance
