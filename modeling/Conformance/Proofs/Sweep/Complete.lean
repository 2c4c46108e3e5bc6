import Conformance.Proofs.Sweep.Watched

/-! A run goes through all of its plan, whatever the gateway does. -/
namespace Conformance.Sweep

open Transport

variable {σ : Type} {network : Network (StateM σ)} {config : Config} {plan : Plan}

/-- A gateway that answers each request by itself, beside any clock. -/
def stateless (answer : Delivery → Except Failure Response) (clock : StateM σ Nat) :
    Network (StateM σ) where
  deliver d := pure (answer d)
  clock := clock

theorem run_accounts (network : Network (StateM σ)) (config : Config) (plan : Plan)
    (s : Scene σ) :
    Accounts network (plan.cases config) (plan.notices config) s
      (run (watched network) watcher config plan s).1
      (run (watched network) watcher config plan s).2 := by
  rw [← Plan.casesIn_steps, ← Plan.steps_notices]
  exact runSteps_accounts (plan.steps config) Plan.steps_written s

theorem report_id (cases : List Case) (exchanges : List Exchange)
    (h : exchanges.length = cases.length) :
    (List.zipWith report cases exchanges).map CaseReport.id = cases.map Case.id := by
  induction cases generalizing exchanges with
  | nil => rfl
  | cons c rest ih =>
    cases exchanges with
    | nil => cases h
    | cons e more => exact congrArg (c.id :: ·) (ih more (Nat.succ.inj h))

theorem report_encoded (cases : List Case) (exchanges : List Exchange) :
    ∀ r ∈ List.zipWith report cases exchanges, ∀ why, r.verdict ≠ unencoded why := by
  induction cases generalizing exchanges with
  | nil => exact fun r hr => absurd hr (List.not_mem_nil)
  | cons c rest ih =>
    cases exchanges with
    | nil => exact fun r hr => absurd hr (List.not_mem_nil)
    | cons e more =>
      intro r hr why
      obtain rfl | hr := List.mem_cons.mp hr
      · exact settled_ne_unencoded (verdict_settled c.check) why
      · exact ih more r hr why

theorem mapM_call_cons (c : Case) (rest : List Case) (s : σ) :
    (c :: rest).mapM (call network) s =
      ((call network c s).1 :: (rest.mapM (call network) (call network c s).2).1,
        (rest.mapM (call network) (call network c s).2).2) := by
  rw [List.mapM_cons]
  rfl

section
variable {clock : StateM σ Nat} {f g : Delivery → Except Failure Response}

/-- How a call ends with a gateway that has no memory. -/
theorem call_stateless (c : Case) (s : σ) :
    call (stateless f clock) c s =
      (Exchange.ofResult (prepare c.request >>= f) ((clock (clock s).2).1 - (clock s).1),
        (clock (clock s).2).2) := by
  unfold call Transport.send Transport.deliver
  cases hp : prepare c.request <;> rfl

theorem call_agrees {c : Case} (h : ∀ d, prepare c.request = .ok d → f d = g d) (s : σ) :
    call (stateless f clock) c s = call (stateless g clock) c s := by
  have hb : (prepare c.request >>= f) = (prepare c.request >>= g) := by
    cases hp : prepare c.request with
    | error failure => rfl
    | ok d => exact h d hp
  rw [call_stateless, call_stateless, hb]

/-- Gateways without a memory answer alike wherever they agree, whatever came before. -/
theorem mapM_call_agrees (clock : StateM σ Nat) (cases : List Case) (s : σ) :
    (cases.mapM (call (stateless f clock)) s).2 = (cases.mapM (call (stateless g clock)) s).2 ∧
    ∀ (i : Nat) (c : Case), cases[i]? = some c → (∀ d, prepare c.request = .ok d → f d = g d) →
      (cases.mapM (call (stateless f clock)) s).1[i]? =
        (cases.mapM (call (stateless g clock)) s).1[i]? := by
  induction cases generalizing s with
  | nil => exact ⟨rfl, fun i c hc => by cases hc⟩
  | cons c rest ih =>
    have hs : (call (stateless f clock) c s).2 = (call (stateless g clock) c s).2 := by
      rw [call_stateless, call_stateless]
    obtain ⟨hstate, hanswers⟩ := ih (call (stateless g clock) c s).2
    rw [mapM_call_cons, mapM_call_cons, hs]
    refine ⟨hstate, fun i c' hc hd => ?_⟩
    cases i with
    | zero =>
      cases hc
      exact congrArg (fun exchange => some exchange.1) (call_agrees hd s)
    | succ i => exact hanswers i c' hc hd

theorem run_agrees (s : Scene σ) {i : Nat} {c : Case} (hc : (plan.cases config)[i]? = some c)
    (h : ∀ d, prepare c.request = .ok d → f d = g d) :
    (run (watched (stateless f clock)) watcher config plan s).1[i]? =
      (run (watched (stateless g clock)) watcher config plan s).1[i]? := by
  obtain ⟨es, _, hf, hr⟩ := (run_accounts (stateless f clock) config plan s).judged
  obtain ⟨es', _, hg, hr'⟩ := (run_accounts (stateless g clock) config plan s).judged
  have he : es[i]? = es'[i]? := by
    have hm := (mapM_call_agrees clock (plan.cases config) s.gateway).2 i c hc h
    rwa [hf, hg] at hm
  rw [hr, hr', List.getElem?_zipWith, List.getElem?_zipWith, he]

end

/-- Every case of a plan is run exactly once and in order, is reported and told of in the same
order, and is judged by its own rules on its own exchange; no failure keeps anything else from
being run. With a gateway that has no memory, what it says to one request is seen only in the cases
that send that very request. -/
theorem run_complete (config : Config) (plan : Plan) :
    (∀ c ∈ plan.cases config, c.id.Owns config c.check) ∧
    (∀ {σ : Type} (network : Network (StateM σ)) (s : Scene σ),
      let outcome := run (watched network) watcher config plan s
      outcome.1.map CaseReport.id = (plan.cases config).map Case.id ∧
      Accounts network (plan.cases config) (plan.notices config) s outcome.1 outcome.2 ∧
      ∀ r ∈ outcome.1, ∀ why, r.verdict ≠ unencoded why) ∧
    ∀ {σ : Type} (clock : StateM σ Nat) (f g : Delivery → Except Failure Response) (d : Delivery)
      (s : Scene σ), (∀ other, other ≠ d → f other = g other) →
      ∀ (i : Nat) (c : Case), (plan.cases config)[i]? = some c → prepare c.request ≠ .ok d →
        (run (watched (stateless f clock)) watcher config plan s).1[i]? =
          (run (watched (stateless g clock)) watcher config plan s).1[i]? := by
  refine ⟨fun c hc => Plan.cases_own hc, fun network s => ?_, ?_⟩
  · intro outcome
    have ha : Accounts network (plan.cases config) (plan.notices config) s outcome.1 outcome.2 :=
      run_accounts network config plan s
    obtain ⟨exchanges, hl, _, hr⟩ := ha.judged
    refine ⟨?_, ha, ?_⟩
    · rw [hr]
      exact report_id _ _ hl
    · rw [hr]
      exact report_encoded _ _
  · intro σ clock f g d s hfg i c hc hd
    refine run_agrees s hc fun other ho => hfg other ?_
    rintro rfl
    exact hd ho

end Conformance.Sweep
