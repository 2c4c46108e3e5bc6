import Conformance.Proofs.Reply.Wording
import Conformance.Proofs.Request.Masking
import Conformance.Proofs.Request.Redirect
import Conformance.Proofs.Sweep.Alike
import Conformance.Proofs.Sweep.Complete

/-! Runs that differ in nothing but the key. Servers that do not look at the key are asked for the
same, and the reports are the same, so that a report tells nothing of a key. -/
namespace Conformance

open List (Forall₂)
open Outcome (Related)
open Transport
open Url (Host)

variable {c : Config} {u v₁ v₂ : Url} {host : Host} {plan : Plan} {a b : Case}
  {k₁ k₂ url₁ url₂ : String}

/-! ### Addresses -/

theorem AlikeUrls.read (hg : c.Gateway u host) (h : AlikeUrls c.baseUrl k₁ k₂ url₁ url₂) :
    Related (SameAddress k₁ k₂) (Url.read url₁) (Url.read url₂) := by
  obtain ⟨s, hs, ⟨rfl, rfl⟩ | ⟨rfl, rfl⟩⟩ := h
  · obtain ⟨p, hp, _⟩ := hg.read_append hs
    rw [hp]
    exact .ok (Or.inl rfl)
  · obtain ⟨p, hp, hn⟩ := hg.read_append hs
    rw [read_keyed hp hn, read_keyed hp hn]
    cases Url.readHost host.text with
    | error cause => exact .error cause
    | ok host' => exact .ok (Or.inr ⟨_, rfl, rfl⟩)

theorem AlikeUrls.mask (hg : c.Gateway u host) (h : AlikeUrls c.baseUrl k₁ k₂ url₁ url₂)
    (h₁ : k₁ ≠ "") (h₂ : k₂ ≠ "") : Redaction.mask url₁ = Redaction.mask url₂ := by
  obtain ⟨s, hs, ⟨rfl, rfl⟩ | ⟨rfl, rfl⟩⟩ := h
  · rfl
  · obtain ⟨p, hp, hn⟩ := hg.read_append hs
    obtain ⟨shown, hshown⟩ := Redaction.mask_withPair hn
    rw [keyed_eq hp, keyed_eq hp, hshown k₁ h₁, hshown k₂ h₂]

theorem Alike.id_eq (hg : c.Gateway u host) (h : Alike c.baseUrl k₁ k₂ a b) (h₁ : k₁ ≠ "")
    (h₂ : k₂ ≠ "") : a.id = b.id := by
  have hurl : a.id.url = b.id.url := by
    rw [h.masked.1, h.masked.2]
    exact h.url.mask hg h₁ h₂
  have hid := h.id
  rwa [hurl] at hid

/-! ### Deliveries -/

section Deliveries

variable {σ : Type} {resolve : Resolver} {answer : Delivery → StateM σ (Except Failure Answer)}

/-- Two deliveries that differ in nothing but the key, and go on doing so when the client is sent
on. -/
structure SteadyButKey (resolve : Resolver) (answer : Delivery → StateM σ (Except Failure Answer))
    (k₁ k₂ : String) (d₁ d₂ : Delivery) : Prop where
  same : SameButKey k₁ k₂ d₁ d₂
  steady : Steady resolve answer k₁ k₂ d₁.signed.url d₂.signed.url

/-- For the addresses of two cases there is room alike, and so there is wherever servers send the
client from there. -/
def Case.SameRoom (resolve : Resolver) (answer : Delivery → StateM σ (Except Failure Answer))
    (a b : Case) : Prop :=
  ∀ v₁ v₂, Url.read a.url = .ok v₁ → Url.read b.url = .ok v₂ →
    (HasRoom v₁.withoutCredentials ↔ HasRoom v₂.withoutCredentials) ∧
      RoomOnward resolve answer { v₁.withoutCredentials with fragment := none }
        { v₂.withoutCredentials with fragment := none }

theorem dispatch_same {r₁ r₂ : Request} {headers₁ headers₂ : Headers}
    (hm : r₁.method = r₂.method) (hb : r₁.body = r₂.body)
    (hh : Forall₂ SameHeader headers₁ headers₂) (ha : SameAddress k₁ k₂ v₁ v₂)
    (hroom : HasRoom v₁.withoutCredentials ↔ HasRoom v₂.withoutCredentials)
    (honward : RoomOnward resolve answer { v₁.withoutCredentials with fragment := none }
      { v₂.withoutCredentials with fragment := none }) :
    Related (SteadyButKey resolve answer k₁ k₂) (dispatch r₁ headers₁ v₁)
      (dispatch r₂ headers₂ v₂) := by
  have hweb : isWeb v₁ = isWeb v₂ := by rw [isWeb, isWeb, ha.scheme]
  have hline : fitsRequestLine v₁ = fitsRequestLine v₂ :=
    fitsLine_same ha.withoutCredentials hroom
  rw [dispatch, dispatch, hweb, hline]
  split
  · exact .error _
  · split
    · exact .error _
    · refine .ok ⟨⟨hm, ?_, hh.imp fun _ _ h => .inl h, congrArg bodyText hb⟩, ?_⟩
      · obtain rfl | ⟨w, rfl, rfl⟩ := ha
        · exact .inl rfl
        · exact .inr ⟨{ w with fragment := none }, rfl, rfl⟩
      · simp only [Delivery.signed, Url.withoutCredentials_fragment]
        obtain rfl | ⟨w, rfl, rfl⟩ := ha
        · exact .same _
        · simp only [Url.withoutCredentials_withPair] at honward ⊢
          exact .keyed { w.withoutCredentials with fragment := none } none rfl honward

/-- With one key and the other, a case is delivered alike or fails alike. -/
theorem Alike.prepare (hg : c.Gateway u host) (h : Alike c.baseUrl k₁ k₂ a b)
    (h₁ : isValue k₁ = true) (h₂ : isValue k₂ = true) (hroom : a.SameRoom resolve answer b) :
    Related (SteadyButKey resolve answer k₁ k₂) (prepare a.request) (prepare b.request) := by
  obtain ⟨p, ha, hb⟩ := h.headers
  have hmethod : a.request.method = b.request.method :=
    (congrArg CaseId.method h.id).trans rfl
  have hbody : a.request.body = b.request.body := congrArg (·.toOption.join) h.body
  obtain ⟨headers₁, headers₂, hb₁, hb₂, hsame⟩ := build_authHeaders p a.request.body h₁ h₂
  rw [← ha] at hb₁
  rw [← hb, hbody] at hb₂
  have hread := h.url.read hg
  unfold Case.SameRoom at hroom
  generalize hr₁ : Url.read a.url = read₁ at hread hroom
  generalize hr₂ : Url.read b.url = read₂ at hread hroom
  cases hread with
  | error cause =>
    rw [prepare_unread hb₁ hr₁, prepare_unread hb₂ hr₂]
    exact .error _
  | ok haddress =>
    obtain ⟨hhere, honward⟩ := hroom _ _ rfl rfl
    rw [prepare_eq hb₁ hr₁, prepare_eq hb₂ hr₂]
    exact dispatch_same hmethod hbody hsame haddress hhere honward

end Deliveries

/-! ### Reports -/

/-- Two verdicts that are the same, or tell in other words why there was no response. -/
inductive SameVerdict : Verdict → Verdict → Prop where
  | same (v : Verdict) : SameVerdict v v
  | failed {f g : Failure} (h : f.Alike g) : SameVerdict
      (unanswered noResponse f.message).verdict (unanswered noResponse g.message).verdict

/-- Two reports that are the same but for times and words. -/
structure SameReport (r r' : CaseReport) : Prop where
  id : r.id = r'.id
  verdict : SameVerdict r.verdict r'.verdict

theorem SameVerdict.passed {v v' : Verdict} (h : SameVerdict v v') : v.passed = v'.passed := by
  cases h <;> rfl

theorem SameVerdict.fault {v v' : Verdict} (h : SameVerdict v v') : v.fault = v'.fault := by
  cases h <;> rfl

theorem Summary.ofCases_same {reports reports' : List CaseReport}
    (h : Forall₂ SameReport reports reports') : ofCases reports = ofCases reports' := by
  have hfold : ∀ s, reports.foldl record s = reports'.foldl record s := by
    induction h with
    | nil => exact fun _ => rfl
    | @cons r r' _ _ hr _ ih =>
      intro s
      have hrecord : s.record r = s.record r' := by
        rw [record, record, CaseReport.passed, CaseReport.passed, hr.verdict.passed,
          hr.verdict.fault]
      rw [List.foldl_cons, List.foldl_cons, hrecord, ih]
  exact hfold {}

/-! ### Runs -/

namespace Sweep

variable {σ τ τ' : Type} {resolve : Resolver}
  {answer : Delivery → StateM σ (Except Failure Answer)} {cases₁ cases₂ : List Case}
  {s t : σ × List Delivery}

/-- One case under both keys. -/
structure SameCase (resolve : Resolver) (answer : Delivery → StateM σ (Except Failure Answer))
    (k₁ k₂ : String) (a b : Case) : Prop where
  id : a.id = b.id
  check : a.check = b.check
  prepared : Related (SteadyButKey resolve answer k₁ k₂) (prepare a.request) (prepare b.request)

theorem asked_same (hr : KeepsQuery resolve) (hb : KeyBlind answer) (limit : Nat)
    (h : SameCase resolve answer k₁ k₂ a b) (hs : SameMemory k₁ k₂ s t) :
    SameEnds k₁ k₂ (asked (fetch resolve limit (recorded answer)) a.request s)
      (asked (fetch resolve limit (recorded answer)) b.request t) := by
  have hprepared := h.prepared
  rw [asked, asked]
  generalize prepare a.request = x at hprepared ⊢
  generalize prepare b.request = y at hprepared ⊢
  cases hprepared with
  | error failure => exact ⟨.error (.same failure), hs⟩
  | ok hd => exact fetch_same hr hb limit hd.same hd.steady hs

theorem report_same (h : SameCase resolve answer k₁ k₂ a b) {x y : Except Failure Response}
    (hxy : SameOutcome Eq x y) (n m : Nat) :
    SameReport (report a (.ofResult x n)) (report b (.ofResult y m)) := by
  refine ⟨h.id, ?_⟩
  cases hxy with
  | ok hsame =>
    rw [hsame, report, report, h.check]
    exact .same _
  | error hf =>
    have hverdict : ∀ (check : Check) (f : Failure),
        check.verdict noResponse f.message = (unanswered noResponse f.message).verdict :=
      fun check f => verdict_of_ne_200 (by decide) check
    simp only [report, Exchange.ofResult, hverdict]
    exact .failed hf

/-- Case by case, both runs come to the same, and leave the servers alike. -/
theorem mapM_call_same (hr : KeepsQuery resolve) (hb : KeyBlind answer) (limit : Nat)
    (clock : StateM τ Nat) (clock' : StateM τ' Nat)
    (h : Forall₂ (SameCase resolve answer k₁ k₂) cases₁ cases₂) (hs : SameMemory k₁ k₂ s t)
    (now : τ) (now' : τ') :
    let first := cases₁.mapM (call (beside (fetch resolve limit (recorded answer)) clock)) (s, now)
    let second := cases₂.mapM (call (beside (fetch resolve limit (recorded answer)) clock')) (t, now')
    SameMemory k₁ k₂ first.2.1 second.2.1 ∧
      Forall₂ SameReport (List.zipWith report cases₁ first.1)
        (List.zipWith report cases₂ second.1) := by
  induction h generalizing s t now now' with
  | nil => exact ⟨hs, .nil⟩
  | @cons a b rest rest' hab _ ih =>
    obtain ⟨n, later, hn⟩ := call_beside (fetch resolve limit (recorded answer)) clock a s now
    obtain ⟨m, later', hm⟩ := call_beside (fetch resolve limit (recorded answer)) clock' b t now'
    obtain ⟨houtcome, hmemory⟩ := asked_same hr hb limit hab hs
    obtain ⟨hrest, hreports⟩ := ih hmemory later later'
    simp only [mapM_call_cons, hn, hm]
    exact ⟨hrest, .cons (report_same hab houtcome n m) hreports⟩

/-- A run with servers that may send the client on: its reports, what state the servers are in
afterwards, and all that they were asked for. -/
def browse (resolve : Resolver) (limit : Nat) (answer : Delivery → StateM σ (Except Failure Answer))
    (clock : StateM τ Nat) (c : Config) (plan : Plan) (s : σ) (now : τ) :
    List CaseReport × σ × List Delivery :=
  let network := watched (beside (fetch resolve limit (recorded answer)) clock)
  let outcome := run network watcher c plan ⟨((s, []), now), [], []⟩
  (outcome.1, outcome.2.gateway.1)

theorem browse_eq (resolve : Resolver) (limit : Nat)
    (answer : Delivery → StateM σ (Except Failure Answer)) (clock : StateM τ Nat) (c : Config)
    (plan : Plan) (s : σ) (now : τ) : browse resolve limit answer clock c plan s now =
      let ended := (plan.cases c).mapM (call (beside (fetch resolve limit (recorded answer)) clock))
        ((s, []), now)
      (List.zipWith report (plan.cases c) ended.1, ended.2.1) := by
  obtain ⟨exchanges, _, hm, hreports⟩ :=
    (run_accounts (beside (fetch resolve limit (recorded answer)) clock) c plan
      ⟨((s, []), now), [], []⟩).judged
  simp only [browse, hm, hreports]

/-- What is shown of a plan is the same with any two keys. With servers that do not look at the key,
so is a run in which no key makes an address too long that the other does not: the servers are asked
for the same, but for the key, and end in the same state, and the reports are the same, but for times
and for the words in which a failure to get a response is told. -/
theorem key_unseen (h : c.check = .ok ()) (h₁ : k₁ ≠ "") (h₂ : k₂ ≠ "") (plan : Plan) :
    plan.plannedCases (c.withKey k₁) = plan.plannedCases (c.withKey k₂) ∧
    (isValue k₁ = true → isValue k₂ = true →
      ∀ {σ τ τ' : Type} (resolve : Resolver) (limit : Nat)
        (answer : Delivery → StateM σ (Except Failure Answer)),
        KeepsQuery resolve → KeyBlind answer →
        Forall₂ (Case.SameRoom resolve answer) (plan.cases (c.withKey k₁))
          (plan.cases (c.withKey k₂)) →
        ∀ (clock : StateM τ Nat) (clock' : StateM τ' Nat) (s : σ) (now : τ) (now' : τ'),
          let first := browse resolve limit answer clock (c.withKey k₁) plan s now
          let second := browse resolve limit answer clock' (c.withKey k₂) plan s now'
          Forall₂ SameReport first.1 second.1 ∧
          Summary.ofCases first.1 = Summary.ofCases second.1 ∧
          first.2.1 = second.2.1 ∧ Forall₂ (SameButKey k₁ k₂) first.2.2 second.2.2) := by
  obtain ⟨u, host, hg⟩ := Config.gateway_of_check h
  refine ⟨?_, fun hv₁ hv₂ {σ τ τ'} resolve limit answer hr hb hroom clock clock' s now now' => ?_⟩
  · refine List.map_congr_left fun k _ => ?_
    have hmask := (chatUrls_alike k.protocol c.baseUrl k.model k.route).mask hg h₁ h₂
    exact congrArg (PlannedCase.mk k (k.expectation c.strictCompat)) hmask
  · intro first second
    have hall := Plan.cases_alike plan c k₁ k₂
    have hcases : Forall₂ (SameCase resolve answer k₁ k₂) (plan.cases (c.withKey k₁))
        (plan.cases (c.withKey k₂)) := by
      refine List.forall₂_iff_zip.mpr ⟨hall.length_eq, fun hab => ?_⟩
      have halike := (List.forall₂_iff_zip.mp hall).2 hab
      exact ⟨halike.id_eq hg h₁ h₂, halike.check,
        halike.prepare hg hv₁ hv₂ ((List.forall₂_iff_zip.mp hroom).2 hab)⟩
    have hstart : SameMemory k₁ k₂ (s, []) (s, []) := ⟨rfl, .nil⟩
    obtain ⟨hmemory, hreports⟩ := mapM_call_same hr hb limit clock clock' hcases hstart now now'
    have hfirst := browse_eq resolve limit answer clock (c.withKey k₁) plan s now
    have hsecond := browse_eq resolve limit answer clock' (c.withKey k₂) plan s now'
    simp only [first, second, hfirst, hsecond]
    exact ⟨hreports, Summary.ofCases_same hreports, hmemory.state, hmemory.asked⟩

/-! ### Long keys and redirects -/

/-- The address of Gemini's listing at the gateway that is set by default. -/
def listingAddress (key : String) : Url :=
  { Config.localGateway with path := .segments ["v1beta".toList, "models".toList] }.withPair "key" key

/-- The plan of this listing alone. -/
def listingPlan : Plan := ⟨[.models], [.gemini]⟩

/-- Its only case. -/
def listingCase (key : String) : Case :=
  (({} : Config).withKey key).listing "Gemini Models" (Gemini.modelsUrl ({} : Config).baseUrl key)
    .gemini

variable {key location : String} {d : Delivery}

theorem cases_listingPlan (key : String) :
    listingPlan.cases (({} : Config).withKey key) = [listingCase key] := rfl

/-- What is asked for in this case. -/
def listingRequest (key : String) : Request :=
  ⟨"GET", Gemini.keyed (({} : Config).baseUrl ++ Protocol.gemini.chatEndpoint) key,
    Protocol.openAI.authHeaders key, none⟩

theorem request_listing (key : String) : (listingCase key).request = listingRequest key := by
  simp only [listingCase, Config.listing, Config.probe, Case.request]
  rfl

theorem read_listing (key : String) : Url.read (listingRequest key).url =
    .ok (listingAddress key) := by
  have hg := Config.gateway_default
  obtain ⟨hread, hn⟩ := hg.read_bare ⟨rfl, rfl, rfl⟩ (tail_endpoint .gemini)
  have htail : Config.localGateway.withTail (Url.unbroken Protocol.gemini.chatEndpoint) =
      { Config.localGateway with path := .segments ["v1beta".toList, "models".toList] } := by decide
  rw [listingRequest, read_keyed hread hn key, htail, Host.text, Config.readHost_local]
  rfl

theorem withoutCredentials_listing (key : String) :
    (listingAddress key).withoutCredentials = listingAddress key :=
  Url.withoutCredentials_of_bare rfl rfl

/-- The listing is asked for if there is room for its address. -/
theorem delivery_listing (hk : isValue key = true) : (delivery? (listingCase key)).isSome =
    decide ((listingAddress key).text.utf8ByteSize ≤ maxUrlBytes) := by
  obtain ⟨headers, _, hb, _, _⟩ := build_authHeaders .openAI none hk hk
  have hp := prepare_eq (r := listingRequest key) hb (read_listing key)
  have hline : fitsRequestLine (listingAddress key) =
      decide ((listingAddress key).text.utf8ByteSize ≤ maxUrlBytes) := by
    have hhost : (!((listingAddress key).host.elim [] Host.text).any
        ['"', '`', '\x7b', '\x7d'].contains) = true := by
      change (!("localhost".toList.any ['"', '`', '\x7b', '\x7d'].contains)) = true
      decide
    rw [fitsRequestLine, withoutCredentials_listing, fitsLine, hhost, Bool.true_and]
  have hweb : isWeb (listingAddress key) = true := rfl
  rw [delivery?, request_listing, hp, dispatch, hweb, hline]
  cases decide ((listingAddress key).text.utf8ByteSize ≤ maxUrlBytes) with
  | false => rfl
  | true => rfl

theorem prepare_of_delivery (h : delivery? (listingCase key) = some d) :
    prepare (listingRequest key) = .ok d := by
  rw [delivery?, request_listing] at h
  exact Outcome.eq_ok_of_toOption h

theorem delivered_listing (h : prepare (listingRequest key) = .ok d) :
    d.method = "GET" ∧ d.signed.url = listingAddress key := by
  obtain ⟨headers, v, _, hread, _, rfl⟩ := prepare_eq_ok.mp h
  obtain rfl : listingAddress key = v := Except.ok.inj ((read_listing key).symm.trans hread)
  exact ⟨rfl, withoutCredentials_listing key⟩

/-- Servers that have moved the listing to the root. -/
def moved (d : Delivery) : StateM Unit (Except Failure Answer) :=
  if d.url.path = (listingAddress "").path then pure (.ok ⟨302, some "/", .ok ""⟩)
  else pure (.ok ⟨200, none, .ok ""⟩)

theorem keyBlind_moved : KeyBlind moved := by
  intro d₁ d₂ s _ hurl _
  have hpath : ({ d₁.url with query := none } : Url).path = d₂.url.path := by rw [hurl]
  rw [moved, moved, show d₁.url.path = d₂.url.path from hpath]
  split
  · exact ⟨.ok ⟨rfl, rfl, .ok rfl⟩, rfl⟩
  · exact ⟨.ok ⟨rfl, rfl, .ok rfl⟩, rfl⟩

theorem eq_of_gives_moved (h : Gives moved location) : location = "/" := by
  obtain ⟨d, s, a, ha, hl⟩ := h
  rw [moved] at ha
  split at ha
  · cases ha
    cases hl
    rfl
  · cases ha
    cases hl

theorem resolve_listing (key : String) :
    resolveReference (listingAddress key) "/" = some Config.localGateway := by
  rfl

/-- The listing is asked for at its address, then at the root. -/
theorem fetch_moved (hm : d.method = "GET") (hu : d.signed.url = listingAddress key) :
    fetch resolveReference 10 (recorded moved) d ((), []) =
      (.ok ⟨200, ""⟩, (), [d.signed.requested, (d.signed.sentOn Config.localGateway).requested]) := by
  have hfirst : recorded moved d.signed.requested ((), []) =
      (.ok ⟨302, some "/", .ok ""⟩, (), [d.signed.requested]) := by
    have hpath : d.signed.requested.url.path = (listingAddress "").path := by
      rw [Delivery.requested, hu]
      rfl
    rw [recorded, moved, if_pos hpath]
    rfl
  have hnext : onward? resolveReference d.signed ⟨302, some "/", .ok ""⟩ =
      some (d.signed.sentOn Config.localGateway) := by
    have hfits : fitsLine Config.localGateway = true := by decide +kernel
    have hfetched : isFetched 302 d.signed.method = false := by
      rw [Delivery.signed, hm]
      decide
    have hbase : { listingAddress key with fragment := none } = listingAddress key := rfl
    simp only [onward?, hu, hbase, resolve_listing, Option.bind_eq_bind, Option.bind_some, hfits,
      hfetched]
    rfl
  have hsecond : recorded moved (d.signed.sentOn Config.localGateway).requested
      ((), [d.signed.requested]) = (.ok ⟨200, none, .ok ""⟩, (),
        [d.signed.requested, (d.signed.sentOn Config.localGateway).requested]) := by
    have hpath : Config.localGateway.path ≠ (listingAddress "").path := by decide
    have hroot : (d.signed.sentOn Config.localGateway).requested.url.path =
      Config.localGateway.path := rfl
    rw [recorded, moved, hroot, if_neg hpath]
    rfl
  have hweb : isWeb (d.signed.sentOn Config.localGateway).url = true := rfl
  rw [fetch, follow_eq, hfirst]
  simp only [hnext]
  rw [goOn, if_pos hweb, follow_eq, hsecond]
  rfl

/-- A clock that stands still. -/
def stopped : StateM Unit Nat := pure 0

/-- What the servers are asked for when the listing is run with this key. -/
def askedWith (key : String) : List Delivery :=
  (browse resolveReference 10 moved stopped (({} : Config).withKey key) listingPlan () ()).2.2

theorem askedWith_eq (key : String) : askedWith key =
    (delivery? (listingCase key)).toList.flatMap fun d =>
      [d.signed.requested, (d.signed.sentOn Config.localGateway).requested] := by
  rw [askedWith, browse_eq, cases_listingPlan]
  obtain ⟨_, _, hcall⟩ := call_beside (fetch resolveReference 10 (recorded moved)) stopped
    (listingCase key) ((), []) ()
  simp only [mapM_call_cons, hcall, asked, delivery?, request_listing]
  cases hp : prepare (listingRequest key) with
  | error failure => rfl
  | ok d =>
    obtain ⟨hm, hu⟩ := delivered_listing hp
    simp only [fetch_moved hm hu]
    rfl

/-- Behind the redirect the servers are told the address of the listing with the key in it. -/
theorem referer_moved (hu : d.signed.url = listingAddress key) :
    (d.signed.sentOn Config.localGateway).requested.headers.lookup "referer" =
      some (listingAddress key).text := by
  have hreferer : referer? d.signed.url Config.localGateway = some (listingAddress key).text := by
    have hscheme : (listingAddress key).scheme = "http".toList := rfl
    rw [referer?, hu, hscheme, if_neg (by decide)]
    rfl
  rw [Delivery.requested, Delivery.sentOn]
  simp only [hreferer]
  rw [setHeader_eq, Pairs.lookup_assign, if_pos rfl]

theorem encode_replicate (n : Nat) :
    Url.Form.encode (List.replicate n 'a') = List.replicate n 'a' := by
  induction n with
  | zero => rfl
  | succ n ih =>
    rw [List.replicate_succ, Url.Form.encode_cons, Url.Form.encode_kept (by decide), ih]
    rfl

/-- A key of so many letters. -/
def letters (n : Nat) : String := String.ofList (List.replicate n 'a')

theorem length_letters (n : Nat) : (letters n).toList.length = n := by
  rw [letters, String.toList_ofList, List.length_replicate]

theorem isValue_letters (n : Nat) : isValue (letters n) = true := by
  rw [isValue, letters, String.toList_ofList, List.all_eq_true]
  intro c hc
  rw [List.eq_of_mem_replicate hc]
  decide

theorem size_listing (n : Nat) : n ≤ (listingAddress (letters n)).text.utf8ByteSize := by
  have hlength : n ≤ (listingAddress (letters n)).chars.length := by
    have hquery : (listingAddress (letters n)).query =
        some ("key=".toList ++ List.replicate n 'a') := by
      change some (Url.Form.encode "key".toList ++ '=' :: Url.Form.encode (letters n).toList) = _
      have hletters : (letters n).toList = List.replicate n 'a' := String.toList_ofList
      rw [hletters, encode_replicate]
      rfl
    simp only [Url.chars, hquery, Url.marked, List.length_append, List.length_cons,
      List.length_replicate]
    omega
  rw [Url.text, Url.utf8ByteSize_ofList]
  exact hlength.trans (Url.length_le_utf8 _)

theorem delivery_listing_short : (delivery? (listingCase "a")).isSome = true ∧
    (delivery? (listingCase "b")).isSome = true := by
  rw [delivery_listing (by decide), delivery_listing (by decide)]
  decide +kernel

/-- With two short keys, the listing is reported alike, and so is what it was moved to. -/
theorem key_unseen_listing : ({} : Config).check = .ok () ∧ "a" ≠ "" ∧ "b" ≠ "" ∧
    isValue "a" = true ∧ isValue "b" = true ∧ KeepsQuery resolveReference ∧ KeyBlind moved ∧
    Forall₂ (Case.SameRoom resolveReference moved) (listingPlan.cases (({} : Config).withKey "a"))
      (listingPlan.cases (({} : Config).withKey "b")) ∧
    (askedWith "a").length = 2 ∧ Forall₂ (SameButKey "a" "b") (askedWith "a") (askedWith "b") := by
  have hroom : Forall₂ (Case.SameRoom resolveReference moved)
      (listingPlan.cases (({} : Config).withKey "a"))
      (listingPlan.cases (({} : Config).withKey "b")) := by
    rw [cases_listingPlan, cases_listingPlan]
    refine .cons (fun v₁ v₂ h₁ h₂ => ?_) .nil
    rw [← Case.request_url, request_listing, read_listing] at h₁ h₂
    obtain rfl : listingAddress "a" = v₁ := Except.ok.inj h₁
    obtain rfl : listingAddress "b" = v₂ := Except.ok.inj h₂
    rw [withoutCredentials_listing, withoutCredentials_listing]
    refine ⟨iff_of_true (by unfold HasRoom; decide +kernel) (by unfold HasRoom; decide +kernel),
      fun location hg w₁ w₂ hw₁ hw₂ => ?_⟩
    obtain rfl := eq_of_gives_moved hg
    obtain rfl : Config.localGateway = w₁ := Option.some.inj ((resolve_listing "a").symm.trans hw₁)
    obtain rfl : Config.localGateway = w₂ := Option.some.inj ((resolve_listing "b").symm.trans hw₂)
    exact Iff.rfl
  obtain ⟨_, hunseen⟩ := key_unseen Config.check_default (by decide : "a" ≠ "")
    (by decide : "b" ≠ "") listingPlan
  obtain ⟨_, _, _, hasked⟩ := hunseen (by decide) (by decide) resolveReference 10 moved
    keepsQuery_resolveReference keyBlind_moved hroom stopped stopped () () ()
  have hsame : Forall₂ (SameButKey "a" "b") (askedWith "a") (askedWith "b") := by
    rw [askedWith, askedWith]
    exact hasked
  have hlength : (askedWith "a").length = 2 := by
    obtain ⟨d, hd⟩ := Option.isSome_iff_exists.mp delivery_listing_short.1
    rw [askedWith_eq, hd]
    rfl
  exact ⟨Config.check_default, by decide, by decide, by decide, by decide,
    keepsQuery_resolveReference, keyBlind_moved, hroom, hlength, hsame⟩

/-- With a key that leaves no room for the address, the servers are not asked at all; and where the
client is sent on, a header that is not meant for it shows the key. -/
theorem key_seen : ({} : Config).check = .ok () ∧ "a" ≠ "" ∧ "b" ≠ "" ∧ letters 65535 ≠ "" ∧
    isValue "a" = true ∧ isValue "b" = true ∧ isValue (letters 65535) = true ∧ KeyBlind moved ∧
    (askedWith "a").length ≠ (askedWith (letters 65535)).length ∧
    ¬ Forall₂ (fun d₁ d₂ => Forall₂ SameHeader d₁.headers d₂.headers) (askedWith "a")
      (askedWith "b") := by
  obtain ⟨d₁, hd₁⟩ := Option.isSome_iff_exists.mp delivery_listing_short.1
  obtain ⟨d₂, hd₂⟩ := Option.isSome_iff_exists.mp delivery_listing_short.2
  have hlong : delivery? (listingCase (letters 65535)) = none := by
    have hsize := size_listing 65535
    rw [← Option.not_isSome_iff_eq_none, delivery_listing (isValue_letters 65535),
      decide_eq_true_iff, maxUrlBytes]
    omega
  have hne : letters 65535 ≠ "" := by
    intro he
    have hl := length_letters 65535
    rw [he] at hl
    exact absurd hl (by decide)
  refine ⟨Config.check_default, by decide, by decide, hne, by decide, by decide,
    isValue_letters 65535, keyBlind_moved, ?_, fun h => ?_⟩
  · rw [askedWith_eq, askedWith_eq, hd₁, hlong]
    exact Nat.succ_ne_zero 1
  · rw [askedWith_eq, askedWith_eq, hd₁, hd₂] at h
    obtain ⟨_, hu₁⟩ := delivered_listing (prepare_of_delivery hd₁)
    obtain ⟨_, hu₂⟩ := delivered_listing (prepare_of_delivery hd₂)
    cases h with
    | cons _ h =>
      cases h with
      | cons h _ =>
        have hfree : "referer" ∉ keyHeaders := by decide
        have hsame := lookup_same hfree h
        rw [referer_moved hu₁, referer_moved hu₂] at hsame
        exact absurd (Option.some.inj hsame) (by decide +kernel)

end Sweep

end Conformance
