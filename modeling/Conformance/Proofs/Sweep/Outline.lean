import Conformance.Sweep.Plan

/-! What a plan calls for: its cases and the notices about them, as configuration and plan alone
determine them. The steps of a run are these and nothing else. -/
namespace Conformance

/-- Something told about a run, with an `α` for each finished case. -/
inductive Notice (α : Type) where
  | suite (suite : Suite)
  | protocol (protocol : Protocol)
  | case (finished : α)

namespace Notice

variable {α β γ : Type}

def map (f : α → β) : Notice α → Notice β
  | suite s => suite s
  | protocol p => protocol p
  | case a => case (f a)

def case? : Notice α → Option α
  | case a => some a
  | _ => none

end Notice

/-- The notice that goes with a step. The end of a suite is only logged. -/
def Step.notice? : Step → Option (Notice Case)
  | .suiteStarted s => some (.suite s)
  | .protocolStarted p => some (.protocol p)
  | .case c => some (.case c)
  | .suiteFinished _ _ => none

namespace Plan

variable {plan : Plan} {config : Config}

/-- The chat cases of a protocol: on each of the five routes a text request, then a tool request. -/
def chats (config : Config) (p : Protocol) : List Case :=
  let name := config.models.groupName
  [Route.default, .switch, .switchCompat, .group name, .groupCompat name].flatMap fun route =>
    [config.chatCase ⟨p, route, config.modelOn route, .text⟩,
      config.chatCase ⟨p, route, config.modelOn route, .toolUse⟩]

/-- The probes of the protocols in the plan, in their own order. -/
def probes (plan : Plan) (all : List Case) : List Case :=
  all.filter fun c => c.id.protocol ∈ plan.protocols

def casesOf (plan : Plan) (config : Config) : Suite → List Case
  | .models => plan.probes config.listings
  | .embeddings => plan.probes config.embeddings
  | .chat => plan.protocols.flatMap (chats config)

/-- Every case of a plan, in order. -/
def cases (plan : Plan) (config : Config) : List Case :=
  plan.suites.flatMap (plan.casesOf config)

def noticesOf (plan : Plan) (config : Config) : Suite → List (Notice Case)
  | .models => (plan.casesOf config .models).map .case
  | .embeddings => (plan.casesOf config .embeddings).map .case
  | .chat => plan.protocols.flatMap fun p => .protocol p :: (chats config p).map .case

/-- Every notice of a run, in order: suites and, within the chat suite, protocols are told of before
their cases. -/
def notices (plan : Plan) (config : Config) : List (Notice Case) :=
  plan.suites.flatMap fun suite => .suite suite :: plan.noticesOf config suite

theorem chats_eq (p : Protocol) : chats config p = (config.chatCases p).map config.chatCase := rfl

theorem probes_eq (all : List Case) : plan.probes all = plan.chosen all := by
  simp [probes, chosen, includes, List.contains_eq_mem]

theorem filterMap_case (cs : List Case) : (cs.map Step.case).filterMap Step.notice? =
    cs.map .case := by
  rw [List.filterMap_map]
  exact congrFun List.filterMap_eq_map cs

theorem filterMap_case? (cs : List Case) : (cs.map Notice.case).filterMap Notice.case? = cs := by
  rw [List.filterMap_map]
  exact List.filterMap_some

theorem suiteSteps_notices (suite : Suite) :
    (plan.suiteSteps config suite).filterMap Step.notice? = plan.noticesOf config suite := by
  cases suite with
  | models => rw [suiteSteps, filterMap_case, noticesOf, casesOf, probes_eq]
  | embeddings => rw [suiteSteps, filterMap_case, noticesOf, casesOf, probes_eq]
  | chat =>
    rw [suiteSteps, noticesOf, List.filterMap_flatMap]
    refine congrArg (plan.protocols.flatMap ·) (funext fun p => ?_)
    have hs : (config.chatCases p).map (fun k => Step.case (config.chatCase k)) =
        (chats config p).map .case := by
      rw [chats_eq, List.map_map]
      rfl
    rw [hs, List.filterMap_cons, filterMap_case, Step.notice?]

/-- The steps of a run tell what the plan calls for. -/
theorem steps_notices : (plan.steps config).filterMap Step.notice? = plan.notices config := by
  rw [steps, notices, List.filterMap_flatMap]
  refine congrArg (plan.suites.flatMap ·) (funext fun suite => ?_)
  simp [Step.notice?, suiteSteps_notices]

theorem noticesOf_cases (suite : Suite) :
    (plan.noticesOf config suite).filterMap Notice.case? = plan.casesOf config suite := by
  cases suite with
  | models => exact filterMap_case? _
  | embeddings => exact filterMap_case? _
  | chat =>
    rw [noticesOf, casesOf, List.filterMap_flatMap]
    refine congrArg (plan.protocols.flatMap ·) (funext fun p => ?_)
    exact filterMap_case? (chats config p)

theorem notices_cases : (plan.notices config).filterMap Notice.case? = plan.cases config := by
  rw [notices, cases, List.filterMap_flatMap]
  refine congrArg (plan.suites.flatMap ·) (funext fun suite => ?_)
  exact noticesOf_cases suite

theorem casesIn_eq (steps : List Step) :
    casesIn steps = (steps.filterMap Step.notice?).filterMap Notice.case? := by
  rw [List.filterMap_filterMap]
  refine congrArg (List.filterMap · steps) (funext fun step => ?_)
  cases step <;> rfl

theorem casesIn_steps : casesIn (plan.steps config) = plan.cases config := by
  rw [casesIn_eq, steps_notices, notices_cases]

/-- No case is left out for want of a request that can be written. -/
theorem cases_written {c : Case} (hc : c ∈ plan.cases config) : c.unwritten? = none := by
  obtain ⟨suite, _, hc⟩ := List.mem_flatMap.mp hc
  cases suite with
  | models =>
    have hl := (List.mem_filter.mp hc).1
    simp only [Config.listings, List.mem_cons, List.not_mem_nil, or_false] at hl
    obtain rfl | rfl | rfl | rfl | rfl := hl <;> rfl
  | embeddings =>
    have he := (List.mem_filter.mp hc).1
    simp only [Config.embeddings, List.mem_cons, List.not_mem_nil, or_false] at he
    obtain rfl | rfl | rfl := he <;> rfl
  | chat =>
    obtain ⟨p, _, hp⟩ := List.mem_flatMap.mp hc
    rw [chats_eq] at hp
    obtain ⟨k, _, rfl⟩ := List.mem_map.mp hp
    rfl

theorem steps_written : ∀ c ∈ casesIn (plan.steps config), c.unwritten? = none := by
  intro c hc
  rw [casesIn_steps] at hc
  exact cases_written hc

/-- Five listings, three embeddings and ten chat cases in each of four protocols. -/
example : (everything.cases {}).length = 48 := by rfl

end Plan

/-- A case is judged by the rules of its own suite, protocol and scenario. -/
def CaseId.Owns (config : Config) (id : CaseId) : Check → Prop
  | .chat p e => id.suite = .chat ∧ id.protocol = p ∧
      (e = .toolCall ↔ id.scenario = some .toolUse ∨
        config.strictCompat ∧ ∃ route, id.route = some route ∧ route.isCompat)
  | .models kind => id.suite = .models ∧ id.protocol = kind.protocol
  | .embedding kind => id.suite = .embeddings ∧ id.protocol = kind.protocol

namespace Plan

variable {plan : Plan} {config : Config} {c : Case}

theorem chatCase_owns (k : ChatCase) :
    (config.chatCase k).id.Owns config (config.chatCase k).check := by
  refine ⟨rfl, rfl, ?_⟩
  obtain ⟨p, route, model, scenario⟩ := k
  cases scenario with
  | toolUse => simp [Config.chatCase, ChatCase.expectation, Expectation.ofKind]
  | text => simp [Config.chatCase, ChatCase.expectation, Expectation.ofKind]

theorem listings_own (h : c ∈ config.listings) : c.id.Owns config c.check := by
  simp only [Config.listings, List.mem_cons, List.not_mem_nil, or_false] at h
  obtain rfl | rfl | rfl | rfl | rfl := h <;> exact ⟨rfl, rfl⟩

theorem embeddings_own (h : c ∈ config.embeddings) : c.id.Owns config c.check := by
  simp only [Config.embeddings, List.mem_cons, List.not_mem_nil, or_false] at h
  obtain rfl | rfl | rfl := h <;> exact ⟨rfl, rfl⟩

theorem cases_own (h : c ∈ plan.cases config) : c.id.Owns config c.check := by
  obtain ⟨suite, _, hc⟩ := List.mem_flatMap.mp h
  cases suite with
  | models => exact listings_own (List.mem_filter.mp hc).1
  | embeddings => exact embeddings_own (List.mem_filter.mp hc).1
  | chat =>
    obtain ⟨p, _, hp⟩ := List.mem_flatMap.mp hc
    rw [chats_eq] at hp
    obtain ⟨k, _, rfl⟩ := List.mem_map.mp hp
    exact chatCase_owns k

end Plan

end Conformance
