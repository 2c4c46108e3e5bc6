import Conformance.Proofs.Sweep.Judgement
import Conformance.Proofs.Sweep.Outline
import Conformance.Sweep.Run

/-! A run as it is seen from outside: the gateway with its memory, the requests that reach it, and
everything the observer is told. -/
namespace Conformance.Sweep

open Transport

variable {σ τ α : Type} {network : Network (StateM σ)} {n : Nat}

/-- A gateway with whatever it remembers, and what has been seen so far. -/
structure Scene (σ : Type) where
  gateway : σ
  received : List Delivery
  notices : List (Notice CaseReport)

def onGateway (x : StateM σ α) : StateM (Scene σ) α := fun s =>
  ((x s.gateway).1, { s with gateway := (x s.gateway).2 })

def tell (notice : Notice CaseReport) : StateM (Scene σ) Unit :=
  modify fun s => { s with notices := s.notices ++ [notice] }

/-- The same network, where every delivery is seen. -/
def watched (network : Network (StateM σ)) : Network (StateM (Scene σ)) where
  deliver d := do
    modify fun s => { s with received := s.received ++ [d] }
    onGateway (network.deliver d)
  clock := onGateway network.clock

/-- An observer who writes down what it is told. -/
def watcher : Observer (StateM (Scene σ)) where
  suiteStarted suite := tell (.suite suite)
  protocolStarted p := tell (.protocol p)
  caseFinished r := tell (.case r)
  log _ := pure ()

/-- One call to a gateway with the request of a case, and nothing else. -/
def call (network : Network (StateM σ)) (c : Case) : StateM σ Exchange :=
  Transport.send network (fun _ => pure ()) c.request

/-- A gateway with a memory of its own, beside a clock. -/
def beside (gateway : Delivery → StateM σ (Except Failure Response)) (clock : StateM τ Nat) :
    Network (StateM (σ × τ)) where
  deliver d := fun s => ((gateway d s.1).1, (gateway d s.1).2, s.2)
  clock := fun s => ((clock s.2).1, s.1, (clock s.2).2)

/-- What comes of a request, for the gateway and for who asked. -/
def asked (gateway : Delivery → StateM σ (Except Failure Response)) (r : Request) :
    StateM σ (Except Failure Response) :=
  match prepare r with
  | .ok d => gateway d
  | .error failure => pure (.error failure)

/-- The clock has no part in what comes of a request. -/
theorem call_beside (gateway : Delivery → StateM σ (Except Failure Response))
    (clock : StateM τ Nat) (a : Case) (s : σ) (t : τ) : ∃ elapsed later,
    call (beside gateway clock) a (s, t) =
      (.ofResult (asked gateway a.request s).1 elapsed, (asked gateway a.request s).2, later) := by
  unfold call Transport.send Transport.deliver asked
  cases hp : prepare a.request with
  | error failure => exact ⟨_, _, rfl⟩
  | ok d => exact ⟨_, _, rfl⟩

/-- What reaches the gateway of a case. -/
def delivery? (c : Case) : Option Delivery := (prepare c.request).toOption

/-- What a stretch of a run comes to that has these cases and notices. -/
structure Accounts (network : Network (StateM σ)) (cases : List Case)
    (notices : List (Notice Case)) (s : Scene σ) (reports : List CaseReport) (s' : Scene σ) :
    Prop where
  /-- One call per case, in order, and each case judged on its own exchange. -/
  judged : ∃ exchanges, exchanges.length = cases.length ∧
    cases.mapM (call network) s.gateway = (exchanges, s'.gateway) ∧
    reports = List.zipWith report cases exchanges
  received : s'.received = s.received ++ cases.filterMap delivery?
  /-- The notices in order, with the very reports of the cases. -/
  told : ∃ told, s'.notices = s.notices ++ told ∧ told.filterMap Notice.case? = reports ∧
    told.map (Notice.map CaseReport.id) = notices.map (Notice.map Case.id)

theorem send_watched (c : Case) (s : Scene σ) :
    Transport.send (watched network) watcher.log c.request s =
      ((call network c s.gateway).1,
        { s with
          gateway := (call network c s.gateway).2
          received := s.received ++ (delivery? c).toList }) := by
  unfold call Transport.send Transport.deliver delivery?
  cases hp : prepare c.request with
  | error failure =>
    simp only [Except.toOption, Option.toList_none, List.append_nil]
    rfl
  | ok d => rfl

theorem runCase_written {m : Type → Type} [Monad m] {network : Network m} {observer : Observer m}
    {c : Case} (h : c.unwritten? = none) :
    runCase network observer n c = callCase network observer n c := by
  rw [runCase, h]

theorem callCase_watched (c : Case) (s : Scene σ) :
    callCase (watched network) watcher n c s =
      (report c (call network c s.gateway).1,
        { gateway := (call network c s.gateway).2
          received := s.received ++ (delivery? c).toList
          notices := s.notices ++ [.case (report c (call network c s.gateway).1)] }) := by
  simp only [callCase, bind, StateT.bind, send_watched]
  -- Passed or not, nothing but the log is different.
  split <;> rfl

namespace Accounts

variable {cases cases' : List Case} {notices notices' : List (Notice Case)} {s t u : Scene σ}
  {reports reports' : List CaseReport}

theorem nothing : Accounts network [] [] s [] s where
  judged := ⟨[], rfl, rfl, rfl⟩
  received := by simp
  told := ⟨[], by simp, rfl, rfl⟩

/-- Stretches of a run follow one another. -/
theorem append (h : Accounts network cases notices s reports t)
    (h' : Accounts network cases' notices' t reports' u) :
    Accounts network (cases ++ cases') (notices ++ notices') s (reports ++ reports') u where
  judged := by
    obtain ⟨es, hl, hm, rfl⟩ := h.judged
    obtain ⟨es', hl', hm', rfl⟩ := h'.judged
    refine ⟨es ++ es', by simp [hl, hl'], ?_, (List.zipWith_append hl.symm).symm⟩
    rw [List.mapM_append]
    simp only [bind, StateT.bind, hm, hm']
    rfl
  received := by rw [h'.received, h.received, List.filterMap_append, List.append_assoc]
  told := by
    obtain ⟨ns, hn, rfl, hi⟩ := h.told
    obtain ⟨ns', hn', rfl, hi'⟩ := h'.told
    refine ⟨ns ++ ns', ?_, List.filterMap_append, ?_⟩
    · rw [hn', hn, List.append_assoc]
    · rw [List.map_append, List.map_append, hi, hi']

/-- A notice that is not about a case. -/
theorem notice {a : Notice Case} {b : Notice CaseReport} (hb : b.case? = none)
    (hab : b.map CaseReport.id = a.map Case.id) :
    Accounts network [] [a] s [] { s with notices := s.notices ++ [b] } where
  judged := ⟨[], rfl, rfl, rfl⟩
  received := by simp
  told := ⟨[b], rfl, by simp [hb], by simp [hab]⟩

theorem case {c : Case} (hc : c.unwritten? = none) :
    Accounts network [c] [.case c] s [(runCase (watched network) watcher n c s).1]
      (runCase (watched network) watcher n c s).2 := by
  rw [runCase_written hc, callCase_watched]
  refine ⟨⟨[(call network c s.gateway).1], rfl, rfl, rfl⟩, ?_, [_], rfl, rfl, rfl⟩
  cases hd : delivery? c <;> simp [hd]

end Accounts

/-- Whatever the gateway answers, each step does its part and leaves the rest to be done. -/
theorem runSteps_accounts (steps : List Step)
    (h : ∀ c ∈ Plan.casesIn steps, c.unwritten? = none) (s : Scene σ) :
    Accounts network (Plan.casesIn steps) (steps.filterMap Step.notice?) s
      (runSteps (watched network) watcher n steps s).1
      (runSteps (watched network) watcher n steps s).2 := by
  induction steps generalizing s with
  | nil => exact .nothing
  | cons step rest ih =>
    cases step with
    | suiteStarted suite =>
      have hn : Accounts network [] [.suite suite] s []
          { s with notices := s.notices ++ [.suite suite] } := .notice rfl rfl
      exact hn.append (ih h _)
    | protocolStarted p =>
      have hn : Accounts network [] [.protocol p] s []
          { s with notices := s.notices ++ [.protocol p] } := .notice rfl rfl
      exact hn.append (ih h _)
    | case c =>
      obtain ⟨hc, hrest⟩ := List.forall_mem_cons.mp h
      exact (Accounts.case hc).append (ih hrest _)
    | suiteFinished suite cases => exact ih h s

end Conformance.Sweep
