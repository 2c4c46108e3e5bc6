import Conformance.Proofs.Reply.Opened
import Conformance.Proofs.Sweep.Alike
import Conformance.Proofs.Sweep.Complete

/-! Runs that differ in how strictly text requests on compatibility routes are judged. The gateway
is asked for the same, and the reports differ nowhere else. -/
namespace Conformance

open List (Forall₂)
open Transport (Delivery Exchange Failure Network Response)

variable {c : Config} {plan : Plan} {a b : Case}

/-- The configuration with lenient or strict compatibility routes. -/
def Config.withStrict (c : Config) (strict : Bool) : Config := { c with strictCompat := strict }

/-- A text request on a compatibility route. -/
def CaseId.TextOnCompat (id : CaseId) : Prop :=
  id.suite = .chat ∧ id.scenario = some .text ∧ ∃ route, id.route = some route ∧ route.isCompat

/-- One case under both configurations. -/
structure Confined (a b : Case) : Prop where
  id : a.id = b.id
  request : a.request = b.request
  check : a.check = b.check ∨
    a.id.TextOnCompat ∧ ∃ p e e', a.check = .chat p e ∧ b.check = .chat p e'

theorem Confined.refl (a : Case) : Confined a a := ⟨rfl, rfl, Or.inl rfl⟩

theorem chatCase_confined (k : ChatCase) :
    Confined ((c.withStrict false).chatCase k) ((c.withStrict true).chatCase k) := by
  refine ⟨rfl, rfl, ?_⟩
  obtain ⟨p, route, model, scenario⟩ := k
  cases scenario with
  | toolUse => exact Or.inl rfl
  | text =>
    cases hr : route.isCompat with
    | true => exact Or.inr ⟨⟨rfl, rfl, route, rfl, hr⟩, p, _, _, rfl, rfl⟩
    | false =>
      left
      simp [Config.chatCase, ChatCase.expectation, hr]

theorem Plan.cases_confined (plan : Plan) (c : Config) :
    Forall₂ Confined (plan.cases (c.withStrict false)) (plan.cases (c.withStrict true)) := by
  refine flatMap_forall₂ (fun suite => ?_) plan.suites
  cases suite with
  | models => exact List.forall₂_same.mpr fun a _ => .refl a
  | embeddings => exact List.forall₂_same.mpr fun a _ => .refl a
  | chat =>
    refine flatMap_forall₂ (fun p => ?_) plan.protocols
    rw [chats_eq, chats_eq, List.forall₂_map_left_iff, List.forall₂_map_right_iff]
    exact List.forall₂_same.mpr fun k _ => chatCase_confined k

/-- Two reports of one case, which differ at most in how a text request on a compatibility route was
judged by what came back. -/
structure ConfinedReports (r r' : CaseReport) : Prop where
  id : r.id = r'.id
  elsewhere : ¬ r.id.TextOnCompat → r.verdict = r'.verdict
  there : r.verdict = r'.verdict ∨ r.verdict.Answered ∧ r'.verdict.Answered

namespace Sweep

variable {σ τ τ' : Type} {cases cases' : List Case}

variable (gateway : Delivery → StateM σ (Except Failure Response)) (clock : StateM τ Nat)
  (clock' : StateM τ' Nat)

/-- Two exchanges that differ at most in the time they took. -/
def SameAnswer (e e' : Exchange) : Prop := e.status = e'.status ∧ e.body = e'.body

theorem sameAnswer_ofResult (result : Except Failure Response) (n m : Nat) :
    SameAnswer (.ofResult result n) (.ofResult result m) := by
  cases result <;> exact ⟨rfl, rfl⟩

theorem confined_report (h : Confined a b) {e e' : Exchange} (he : SameAnswer e e') :
    ConfinedReports (report a e) (report b e') := by
  obtain ⟨hstatus, hbody⟩ := he
  simp only [report, hstatus, hbody]
  obtain hcheck | ⟨htext, p, x, x', ha, hb⟩ := h.check
  · have hv : a.check.verdict e'.status e'.body = b.check.verdict e'.status e'.body := by
      rw [hcheck]
    exact ⟨h.id, fun _ => hv, Or.inl hv⟩
  · refine ⟨h.id, fun hn => absurd htext hn, ?_⟩
    rw [ha, hb]
    exact Reply.chatVerdict_cases p x x' e'.status e'.body

/-- One gateway and two clocks: the cases are answered alike, one after the other. -/
theorem mapM_call_confined (h : Forall₂ Confined cases cases') (s : σ) (t : τ) (t' : τ') :
    let lenient := cases.mapM (call (beside gateway clock)) (s, t)
    let strict := cases'.mapM (call (beside gateway clock')) (s, t')
    lenient.2.1 = strict.2.1 ∧
      Forall₂ ConfinedReports (List.zipWith report cases lenient.1)
        (List.zipWith report cases' strict.1) := by
  induction h generalizing s t t' with
  | nil => exact ⟨rfl, .nil⟩
  | @cons a b rest rest' hab _ ih =>
    obtain ⟨n, u, hn⟩ := call_beside gateway clock a s t
    obtain ⟨m, u', hm⟩ := call_beside gateway clock' b s t'
    rw [← hab.request] at hm
    obtain ⟨hmemory, hreports⟩ := ih (asked gateway a.request s).2 u u'
    simp only [mapM_call_cons, hn, hm]
    exact ⟨hmemory, .cons (confined_report hab (sameAnswer_ofResult _ n m)) hreports⟩

theorem deliveries_confined (h : Forall₂ Confined cases cases') :
    cases.filterMap delivery? = cases'.filterMap delivery? := by
  induction h with
  | nil => rfl
  | cons hab _ ih => simp only [List.filterMap_cons, delivery?, hab.request, ih]

/-- Strictness on compatibility routes is confined to the text requests there. Whatever the gateway
answers, in whatever time, it is asked for the same and ends in the same state; every other case is
reported alike, and those are judged differently only where both verdicts go by what came back. The
same holds of any one response under two expectations: they tell no fault apart but a semantic
one. -/
theorem strictness_confined (c : Config) (plan : Plan) :
    (∀ {σ τ τ' : Type} (gateway : Delivery → StateM σ (Except Failure Response))
      (clock : StateM τ Nat) (clock' : StateM τ' Nat) (s : σ) (t : τ) (t' : τ'),
      let lenient := run (watched (beside gateway clock)) watcher (c.withStrict false) plan
        ⟨(s, t), [], []⟩
      let strict := run (watched (beside gateway clock')) watcher (c.withStrict true) plan
        ⟨(s, t'), [], []⟩
      lenient.2.received = strict.2.received ∧
      lenient.2.gateway.1 = strict.2.gateway.1 ∧
      Forall₂ ConfinedReports lenient.1 strict.1) ∧
    ∀ (p : Protocol) (e e' : Expectation) (status : Int) (body : String) (f : Fault),
      f ∈ [.transport, .status, .decode, .shape, .protocolMismatch] →
      (Reply.chatVerdict p e status body).fault = some f →
        Reply.chatVerdict p e status body = Reply.chatVerdict p e' status body := by
  refine ⟨fun gateway clock clock' s t t' => ?_, fun p e e' status body f hf hfault => ?_⟩
  · intro lenient strict
    have hcases := plan.cases_confined c
    have ha := run_accounts (beside gateway clock) (c.withStrict false) plan ⟨(s, t), [], []⟩
    have ha' := run_accounts (beside gateway clock') (c.withStrict true) plan ⟨(s, t'), [], []⟩
    obtain ⟨exchanges, _, hm, hr⟩ := ha.judged
    obtain ⟨exchanges', _, hm', hr'⟩ := ha'.judged
    obtain ⟨hmemory, hreports⟩ := mapM_call_confined gateway clock clock' hcases s t t'
    simp only [hm, hm', ← hr, ← hr'] at hmemory hreports
    refine ⟨?_, hmemory, hreports⟩
    exact ha.received.trans ((deliveries_confined hcases).trans ha'.received.symm)
  · refine Reply.chatVerdict_eq_of_fault hfault ?_ e'
    rintro rfl
    exact absurd hf (by decide)

end Sweep

end Conformance
