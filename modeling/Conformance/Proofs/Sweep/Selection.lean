import Conformance.Proofs.Sweep.Follow
import Mathlib.Data.List.Nodup
import Mathlib.Data.List.ProdSigma

/-! A selection of suites and protocols runs those cases of the whole sweep that belong to it, in
the order of the sweep and each of them once. -/
namespace Conformance

variable {config : Config} {suites suites' : List Suite} {protocols protocols' : List Protocol}

/-- A case belongs to a selection. Where nothing was chosen, everything is. -/
def CaseId.Chosen (suites : List Suite) (protocols : List Protocol) (id : CaseId) : Prop :=
  (suites = [] ∨ id.suite ∈ suites) ∧ (protocols = [] ∨ id.protocol ∈ protocols)

instance (id : CaseId) : Decidable (id.Chosen suites protocols) :=
  inferInstanceAs (Decidable (_ ∧ _))

theorem selection_eq {α : Type} [DecidableEq α] (all chosen : List α) :
    selection all chosen = all.filter fun a => chosen = [] ∨ a ∈ chosen :=
  List.filter_congr fun a _ => by
    rw [Bool.eq_iff_iff]
    simp

/-- Only which names were chosen counts, not how often or in which order. -/
theorem selection_congr {α : Type} [DecidableEq α] {all chosen chosen' : List α}
    (h : ∀ a, a ∈ chosen ↔ a ∈ chosen') : selection all chosen = selection all chosen' := by
  have hempty : chosen = [] ↔ chosen' = [] := by
    rw [List.eq_nil_iff_forall_not_mem, List.eq_nil_iff_forall_not_mem]
    exact forall_congr' fun a => not_congr (h a)
  rw [selection_eq, selection_eq]
  exact List.filter_congr fun a _ => decide_eq_decide.mpr (or_congr hempty (h a))

/-- Lists put together from fewer parts hold the elements that come from those parts. -/
theorem flatMap_filter_of {α β : Type} {p : α → Bool} {q : β → Bool} {f : α → List β}
    (h : ∀ a, ∀ b ∈ f a, q b = p a) (as : List α) :
    (as.filter p).flatMap f = (as.flatMap f).filter q := by
  induction as with
  | nil => rfl
  | cons a as ih =>
    rw [List.flatMap_cons, List.filter_append, ← ih]
    cases hp : p a with
    | true =>
      have hq : (f a).filter q = f a := List.filter_eq_self.mpr fun b hb => (h a b hb).trans hp
      rw [List.filter_cons_of_pos hp, List.flatMap_cons, hq]
    | false =>
      have hq : (f a).filter q = [] :=
        List.filter_eq_nil_iff.mpr fun b hb => by simp [h a b hb, hp]
      rw [List.filter_cons_of_neg (by simp [hp]), hq, List.nil_append]

namespace Plan

variable {plan : Plan} {suite : Suite} {c : Case}

theorem mem_protocols_ofChoice {p : Protocol} :
    p ∈ (ofChoice suites protocols).protocols ↔ protocols = [] ∨ p ∈ protocols := by
  simp [ofChoice, selection_eq, Protocol.mem_all]

theorem protocol_of_mem_chats {p : Protocol} (h : c ∈ chats config p) : c.id.protocol = p := by
  rw [chats_eq] at h
  obtain ⟨k, hk, rfl⟩ := List.mem_map.mp h
  obtain ⟨⟨route, model⟩, _, hk⟩ := List.mem_flatMap.mp hk
  obtain ⟨scenario, _, rfl⟩ := List.mem_map.mp hk
  rfl

/-- A case is run in its own suite. -/
theorem suite_of_mem_casesOf (h : c ∈ plan.casesOf config suite) : c.id.suite = suite := by
  cases suite with
  | models =>
    have hl := (List.mem_filter.mp h).1
    simp only [Config.listings, List.mem_cons, List.not_mem_nil, or_false] at hl
    obtain rfl | rfl | rfl | rfl | rfl := hl <;> rfl
  | embeddings =>
    have hl := (List.mem_filter.mp h).1
    simp only [Config.embeddings, List.mem_cons, List.not_mem_nil, or_false] at hl
    obtain rfl | rfl | rfl := hl <;> rfl
  | chat =>
    obtain ⟨p, _, hp⟩ := List.mem_flatMap.mp h
    rw [chats_eq] at hp
    obtain ⟨k, _, rfl⟩ := List.mem_map.mp hp
    rfl

theorem probes_everything (all : List Case) : everything.probes all = all :=
  List.filter_eq_self.mpr fun c _ => decide_eq_true (Protocol.mem_all c.id.protocol)

theorem probes_ofChoice (all : List Case) : (ofChoice suites protocols).probes all =
    all.filter fun c => protocols = [] ∨ c.id.protocol ∈ protocols :=
  List.filter_congr fun _ _ => decide_eq_decide.mpr mem_protocols_ofChoice

/-- Within a suite, a selection of protocols leaves out the cases of the others, whether they are
probes in an order of their own or are run protocol by protocol. -/
theorem casesOf_ofChoice (suite : Suite) : (ofChoice suites protocols).casesOf config suite =
    (everything.casesOf config suite).filter
      fun c => protocols = [] ∨ c.id.protocol ∈ protocols := by
  cases suite with
  | models => rw [casesOf, casesOf, probes_everything, probes_ofChoice]
  | embeddings => rw [casesOf, casesOf, probes_everything, probes_ofChoice]
  | chat =>
    have hp : (ofChoice suites protocols).protocols =
        everything.protocols.filter fun p => protocols = [] ∨ p ∈ protocols :=
      selection_eq Protocol.all protocols
    rw [casesOf, casesOf, hp]
    refine flatMap_filter_of (fun p c hc => ?_) everything.protocols
    rw [protocol_of_mem_chats hc]

/-- The cases of a selection are those of the whole sweep that belong to it. -/
theorem cases_ofChoice : (ofChoice suites protocols).cases config =
    (everything.cases config).filter fun c => c.id.Chosen suites protocols := by
  have hs : (ofChoice suites protocols).suites =
      everything.suites.filter fun s => suites = [] ∨ s ∈ suites :=
    selection_eq Suite.all suites
  have hsuite : ∀ suite : Suite, ∀ c ∈ everything.casesOf config suite,
      decide (suites = [] ∨ c.id.suite ∈ suites) = decide (suites = [] ∨ suite ∈ suites) := by
    intro suite c hc
    rw [suite_of_mem_casesOf hc]
  calc (ofChoice suites protocols).cases config
      = (everything.suites.filter fun s => suites = [] ∨ s ∈ suites).flatMap fun suite =>
          (everything.casesOf config suite).filter
            fun c => protocols = [] ∨ c.id.protocol ∈ protocols := by
        rw [cases, hs]
        exact congrArg (List.flatMap · _) (funext casesOf_ofChoice)
    _ = ((everything.suites.filter fun s => suites = [] ∨ s ∈ suites).flatMap
          (everything.casesOf config)).filter
            fun c => protocols = [] ∨ c.id.protocol ∈ protocols := List.filter_flatMap.symm
    _ = ((everything.cases config).filter fun c => suites = [] ∨ c.id.suite ∈ suites).filter
          fun c => protocols = [] ∨ c.id.protocol ∈ protocols := by
        rw [flatMap_filter_of hsuite, cases]
    _ = (everything.cases config).filter fun c => c.id.Chosen suites protocols := by
        rw [List.filter_filter]
        refine List.filter_congr fun c _ => ?_
        simp [CaseId.Chosen, and_comm]

theorem ofChoice_congr (hs : ∀ s, s ∈ suites' ↔ s ∈ suites)
    (hp : ∀ p, p ∈ protocols' ↔ p ∈ protocols) :
    ofChoice suites' protocols' = ofChoice suites protocols := by
  rw [ofChoice, ofChoice, selection_congr hs, selection_congr hp]

/-- What tells the chat cases of a run apart. -/
def chatKey (c : Case) : Protocol × Option Route × Option Scenario :=
  (c.id.protocol, c.id.route, c.id.scenario)

theorem chats_nodup (config : Config) :
    ((everything.casesOf config .chat).map Case.id).Nodup := by
  have hkeys : (everything.casesOf config .chat).map chatKey =
      Protocol.all.product
        (((Route.all config.models.groupName).map some).product (Scenario.all.map some)) := rfl
  have hroutes : ((Route.all config.models.groupName).map some).Nodup := by simp [Route.all]
  have hnodup : ((everything.casesOf config .chat).map chatKey).Nodup := by
    rw [hkeys]
    exact List.Nodup.product (by decide) (hroutes.product (by decide))
  have hid : chatKey = (fun id : CaseId => (id.protocol, id.route, id.scenario)) ∘ Case.id := rfl
  rw [hid, ← List.map_map] at hnodup
  exact hnodup.of_map

/-- Within a suite, every probe has a name of its own. -/
theorem probeLabels_nodup (h : suite ≠ .chat) :
    ((everything.casesOf config suite).map fun c => c.id.label).Nodup := by
  cases suite with
  | models =>
    rw [casesOf, probes_everything]
    change ["OpenAI List", "Ollama Tags", "Gemini Models", "Grouped List", "Switch List"].Nodup
    decide
  | embeddings =>
    rw [casesOf, probes_everything]
    change ["OpenAI Embed", "Gemini Embed", "Ollama Embed"].Nodup
    decide
  | chat => exact absurd rfl h

theorem casesOf_nodup (suite : Suite) : ((everything.casesOf config suite).map Case.id).Nodup := by
  by_cases h : suite = .chat
  · rw [h]
    exact chats_nodup config
  · have hl : (fun c : Case => c.id.label) = CaseId.label ∘ Case.id := rfl
    have hlabels : ((everything.casesOf config suite).map (·.id.label)).Nodup :=
      probeLabels_nodup h
    rw [hl, ← List.map_map] at hlabels
    exact hlabels.of_map

/-- No case occurs twice in the sweep. -/
theorem cases_nodup (config : Config) : ((everything.cases config).map Case.id).Nodup := by
  rw [cases, List.map_flatMap, List.nodup_flatMap]
  refine ⟨fun suite _ => casesOf_nodup suite, ?_⟩
  have hsuites : everything.suites.Nodup := by decide
  refine hsuites.imp fun {s t} hne => ?_
  intro id hs ht
  obtain ⟨c, hc, rfl⟩ := List.mem_map.mp hs
  obtain ⟨c', hc', hid⟩ := List.mem_map.mp ht
  have hsuite := suite_of_mem_casesOf hc'
  rw [hid, suite_of_mem_casesOf hc] at hsuite
  exact hne hsuite

end Plan

/-- What a report says, the time apart. -/
def CaseReport.result (r : CaseReport) : CaseId × Verdict := (r.id, r.verdict)

namespace Sweep

open Transport

variable {σ τ : Type} {network : Network (StateM σ)} {observer : Observer (StateM σ)}
  {answer : Delivery → Except Failure Response} {n : Nat}

/-- A gateway that answers each request by itself, whatever was asked before. -/
def Forgetful (answer : Delivery → Except Failure Response) (network : Network (StateM σ)) : Prop :=
  ∀ d s, (network.deliver d s).1 = answer d

/-- What is reported of a case that such a gateway answers. -/
def answered (answer : Delivery → Except Failure Response) (c : Case) : CaseId × Verdict :=
  (report c (.ofResult (prepare c.request >>= answer) 0)).result

theorem send_forgetful (h : Forgetful answer network) (log : Log.Entry → StateM σ Unit)
    (r : Request) (s : σ) : ∃ elapsed,
      (Transport.send network log r s).1 = .ofResult (prepare r >>= answer) elapsed := by
  have hd : ∀ t, (Transport.deliver network r t).1 = (prepare r >>= answer) := by
    intro t
    unfold Transport.deliver
    cases hp : prepare r with
    | error failure => rfl
    | ok d => exact h d t
  let stop := (network.clock (Transport.deliver network r (network.clock s).2).2).1
  refine ⟨stop - (network.clock s).1, ?_⟩
  rw [← hd (network.clock s).2]
  rfl

theorem result_report (c : Case) (result : Except Failure Response) (elapsed : Nat) :
    (report c (.ofResult result elapsed)).result = (report c (.ofResult result 0)).result := by
  cases result <;> rfl

/-- Passed or not, what is reported does not depend on who is told. -/
theorem runCase_report (network : Network (StateM σ)) (observer : Observer (StateM σ)) {c : Case}
    (hc : c.unwritten? = none) (s : σ) : (runCase network observer n c s).1 =
      report c (Transport.send network observer.log c.request s).1 := by
  rw [runCase_written hc]
  simp only [callCase, bind, StateT.bind]
  obtain ⟨e, t⟩ := Transport.send network observer.log c.request s
  cases hp : (report c e).passed <;> simp only [hp] <;> rfl

theorem runSteps_ids (network : Network (StateM σ)) (observer : Observer (StateM σ))
    (steps : List Step) (h : ∀ c ∈ Plan.casesIn steps, c.unwritten? = none) (s : σ) :
    (runSteps network observer n steps s).1.map CaseReport.id =
      (Plan.casesIn steps).map Case.id := by
  induction steps generalizing s with
  | nil => rfl
  | cons step rest ih =>
    cases step with
    | suiteStarted suite => exact ih h _
    | protocolStarted p => exact ih h _
    | case c =>
      obtain ⟨hc, hrest⟩ := List.forall_mem_cons.mp h
      have hid := congrArg CaseReport.id (runCase_report (n := n) network observer hc s)
      exact congrArg₂ List.cons hid (ih hrest _)
    | suiteFinished suite cases => exact ih h _

/-- Whatever the gateway does, the cases of the plan are those that are reported. -/
theorem run_ids (network : Network (StateM σ)) (observer : Observer (StateM σ))
    (config : Config) (plan : Plan) (s : σ) :
    (run network observer config plan s).1.map CaseReport.id = (plan.cases config).map Case.id := by
  rw [← Plan.casesIn_steps]
  exact runSteps_ids network observer (plan.steps config) Plan.steps_written _

theorem runCase_forgetful (h : Forgetful answer network) {c : Case} (hc : c.unwritten? = none)
    (s : σ) : (runCase network observer n c s).1.result = answered answer c := by
  obtain ⟨elapsed, he⟩ := send_forgetful h observer.log c.request s
  rw [runCase_report network observer hc, he, result_report, answered]

/-- Whoever listens and whatever they do, each case is reported by its own answer. -/
theorem runSteps_forgetful (h : Forgetful answer network) (steps : List Step)
    (hw : ∀ c ∈ Plan.casesIn steps, c.unwritten? = none) (s : σ) :
    (runSteps network observer n steps s).1.map CaseReport.result =
      (Plan.casesIn steps).map (answered answer) := by
  induction steps generalizing s with
  | nil => rfl
  | cons step rest ih =>
    cases step with
    | suiteStarted suite => exact ih hw _
    | protocolStarted p => exact ih hw _
    | case c =>
      obtain ⟨hc, hrest⟩ := List.forall_mem_cons.mp hw
      exact congrArg₂ List.cons (runCase_forgetful h hc s) (ih hrest _)
    | suiteFinished suite cases => exact ih hw _

theorem run_forgetful (h : Forgetful answer network) (observer : Observer (StateM σ))
    (config : Config) (plan : Plan) (s : σ) :
    (run network observer config plan s).1.map CaseReport.result =
      (plan.cases config).map (answered answer) := by
  rw [← Plan.casesIn_steps]
  exact runSteps_forgetful h (plan.steps config) Plan.steps_written _

/-- At a gateway that answers each request by itself, a selection of suites and protocols is run as
that part of the whole sweep which belongs to it, whatever time it takes and whoever listens: in the
order of the sweep, no case twice, and however the selection is put. -/
theorem run_selected {network' : Network (StateM τ)} (h : Forgetful answer network)
    (h' : Forgetful answer network') (observer : Observer (StateM σ))
    (observer' : Observer (StateM τ)) (config : Config) (suites : List Suite)
    (protocols : List Protocol) (s : σ) (s' : τ) :
    let selected := (run network observer config (.ofChoice suites protocols) s).1
    let sweep := (run network' observer' config ⟨Suite.all, Protocol.all⟩ s').1
    selected.map CaseReport.result =
      (sweep.filter fun r => r.id.Chosen suites protocols).map CaseReport.result ∧
    (selected.map CaseReport.id).Nodup ∧
    (selected.map CaseReport.id).Sublist (sweep.map CaseReport.id) ∧
    ∀ (suites' : List Suite) (protocols' : List Protocol),
      (∀ x, x ∈ suites' ↔ x ∈ suites) → (∀ p, p ∈ protocols' ↔ p ∈ protocols) →
        run network observer config (.ofChoice suites' protocols') s =
          run network observer config (.ofChoice suites protocols) s := by
  intro selected sweep
  let belongs (x : CaseId × Verdict) : Bool := x.1.Chosen suites protocols
  have hsweep : sweep.map CaseReport.result =
      (Plan.everything.cases config).map (answered answer) :=
    run_forgetful h' observer' config Plan.everything s'
  have hids : selected.map CaseReport.id =
      ((Plan.ofChoice suites protocols).cases config).map Case.id :=
    run_ids network observer config (.ofChoice suites protocols) s
  have hsweepIds : sweep.map CaseReport.id = (Plan.everything.cases config).map Case.id :=
    run_ids network' observer' config Plan.everything s'
  have hsub : (selected.map CaseReport.id).Sublist (sweep.map CaseReport.id) := by
    rw [hids, hsweepIds, Plan.cases_ofChoice]
    exact List.filter_sublist.map Case.id
  refine ⟨?_, ?_, hsub, fun suites' protocols' hs hp => ?_⟩
  · calc selected.map CaseReport.result
        = ((Plan.ofChoice suites protocols).cases config).map (answered answer) :=
          run_forgetful h observer config (.ofChoice suites protocols) s
      _ = ((Plan.everything.cases config).map (answered answer)).filter belongs := by
          rw [Plan.cases_ofChoice, List.filter_map]
          rfl
      _ = (sweep.filter fun r => r.id.Chosen suites protocols).map CaseReport.result := by
          rw [← hsweep, List.filter_map]
          rfl
  · refine hsub.nodup ?_
    rw [hsweepIds]
    exact Plan.cases_nodup config
  · rw [Plan.ofChoice_congr hs hp]

/-- Gemini's part of the sweep at a gateway that refuses everything, chosen in an odd way. -/
theorem run_selected_odd :
    let answer : Delivery → Except Failure Response := fun _ => .error (.connection "refused")
    let network : Network (StateM Unit) := stateless answer (pure 0)
    Forgetful answer network ∧
    (run network unmoved {} (.ofChoice [.chat, .models, .chat] [.gemini]) ()).1.map
        CaseReport.result =
      ((run network unmoved {} ⟨Suite.all, Protocol.all⟩ ()).1.filter
        fun r => r.id.Chosen [.chat, .models, .chat] [.gemini]).map CaseReport.result :=
  ⟨fun _ _ => rfl, (run_selected (fun _ _ => rfl) (fun _ _ => rfl) unmoved unmoved {}
    [.chat, .models, .chat] [.gemini] () ()).1⟩

end Sweep

end Conformance
