import Conformance.Proofs.Sweep.Complete
import Mathlib.Data.List.Forall2

/-! What is shown of a plan before a run, and the chat cases of the run: the same cases in the same
order, with the expectation that is shown enforced. -/
namespace Conformance

namespace Reply

open Outcome

variable {p : Protocol} {status : Int} {body : String}

/-- What a response passes with is what was expected of it: a text that is not empty, or a call of
the tool that was declared. -/
theorem extracted_of_passed {e : Expectation} (h : (chatVerdict p e status body).passed) :
    ((∃ text, text ≠ "" ∧ (chatVerdict p e status body).extracted = some (.text text)) ∧
        e = .text) ∨
      ((chatVerdict p e status body).extracted = some (.toolCall toolName) ∧ e = .toolCall) := by
  unfold chatVerdict at h ⊢
  generalize hx : (do
    let members ← envelope p status body
    let chat ← Chat.ofMembers p members
    chat.judge p e : Except Complaint Verdict) = x at h ⊢
  cases x with
  | error c => cases h
  | ok v =>
    simp only [bind_eq_ok] at hx
    obtain ⟨_, _, chat, _, hj⟩ := hx
    cases e with
    | text =>
      obtain ⟨text, _, hne, rfl⟩ := judgeText_eq_ok.mp hj
      exact .inl ⟨⟨text, hne, rfl⟩, rfl⟩
    | toolCall =>
      obtain ⟨_, rfl⟩ := judge_toolCall_eq_ok.mp hj
      exact .inr ⟨rfl, rfl⟩

end Reply

namespace Sweep

open Transport

variable {σ : Type} {network : Network (StateM σ)} {config : Config} {plan : Plan}

/-- The cases of a run, each with the exchange it ends in. -/
def turns (network : Network (StateM σ)) (cases : List Case) (s : σ) : List (Case × Exchange) :=
  cases.zip (cases.mapM (call network) s).1

/-- A case that is run is the one that was shown, and is judged as was shown. -/
structure AsPlanned (view : PlannedCase) (c : Case) (e : Exchange) : Prop where
  protocol : c.id.protocol = view.chat.protocol
  route : c.id.route = some view.chat.route
  scenario : c.id.scenario = some view.chat.scenario
  url : c.id.url = view.url
  asked : Redaction.mask c.request.url = view.url
  /-- Gemini's requests name the model in the URL. -/
  model : view.chat.protocol ≠ .gemini → ∃ members : Json.Members,
    c.request.body = some (.json (.object members)) ∧
      members.get? "model" = some (.string view.chat.model)
  judged : (report c e).verdict =
    Reply.chatVerdict view.chat.protocol view.expects e.status e.body
  text : (report c e).passed →
    ((∃ text, text ≠ "" ∧ (report c e).verdict.extracted = some (.text text)) ↔
      view.expects = .text)
  toolCall : (report c e).passed →
    ((report c e).verdict.extracted = some (.toolCall "get_weather") ↔ view.expects = .toolCall)

/-- The body that asks for a model names it, whatever the model is called. -/
theorem chat_model {p : Protocol} (hp : p ≠ .gemini) (model : String) (scenario : Scenario) :
    ∃ members : Json.Members, (Payload.chat p model scenario).canonical = .object members ∧
      members.get? "model" = some (.string model) := by
  cases p with
  | gemini => exact absurd rfl hp
  | _ => cases scenario <;> exact ⟨_, rfl, rfl⟩

theorem chatCase_asPlanned (config : Config) (k : ChatCase) (e : Exchange) :
    AsPlanned ⟨k, k.expectation config.strictCompat, Redaction.mask (config.chatUrl k)⟩
      (config.chatCase k) e where
  protocol := rfl
  route := rfl
  scenario := rfl
  url := rfl
  asked := rfl
  model hp := by
    obtain ⟨members, hb, hm⟩ := chat_model hp k.model k.scenario
    exact ⟨members, congrArg (fun json => some (Body.json json)) hb, hm⟩
  judged := rfl
  text h := by
    obtain ⟨ht, he⟩ | ⟨hc, he⟩ := Reply.extracted_of_passed h
    · exact ⟨fun _ => he, fun _ => ht⟩
    · constructor
      · rintro ⟨_, _, ht⟩
        cases hc.symm.trans ht
      · intro ht
        cases he.symm.trans ht
  toolCall h := by
    obtain ⟨⟨_, _, ht⟩, he⟩ | ⟨hc, he⟩ := Reply.extracted_of_passed h
    · constructor
      · intro hc
        cases ht.symm.trans hc
      · intro hc
        cases he.symm.trans hc
    · exact ⟨fun _ => he, fun _ => hc⟩

/-- The chat cases of a protocol selection. -/
def selected (plan : Plan) (config : Config) : List ChatCase :=
  plan.protocols.flatMap config.chatCases

theorem casesOf_chat (suite : Suite) : (plan.casesOf config suite).filter (·.id.suite = .chat) =
    if suite = .chat then (selected plan config).map config.chatCase else [] := by
  have hprobes : ∀ cs : List Case, (∀ c ∈ cs, c.id.suite ≠ .chat) →
      (plan.probes cs).filter (·.id.suite = .chat) = [] := by
    intro cs hcs
    refine List.filter_eq_nil_iff.mpr fun c hc => ?_
    simpa using hcs c (List.mem_filter.mp hc).1
  cases suite with
  | models => exact hprobes _ (by simp [Config.listings, Config.listing, Config.probe])
  | embeddings => exact hprobes _ (by simp [Config.embeddings, Config.embedding, Config.probe])
  | chat =>
    rw [if_pos rfl, Plan.casesOf, selected, List.map_flatMap]
    refine List.filter_eq_self.mpr fun c hc => ?_
    obtain ⟨p, _, hp⟩ := List.mem_flatMap.mp hc
    obtain ⟨k, _, rfl⟩ := List.mem_map.mp (Plan.chats_eq p ▸ hp)
    rfl

/-- Suites are run once at most, so that the chat cases of a run are those of its protocols. -/
theorem cases_chat (suites : List Suite) (protocols : List Protocol) :
    ((Plan.ofChoice suites protocols).cases config).filter (·.id.suite = .chat) =
      if .chat ∈ (Plan.ofChoice suites protocols).suites then
        (selected (.ofChoice suites protocols) config).map config.chatCase
      else [] := by
  generalize hq : Plan.ofChoice suites protocols = plan
  have hs : plan.suites = Suite.all.filter fun s => suites.isEmpty || suites.contains s := by
    rw [← hq]
    rfl
  rw [Plan.cases, List.filter_flatMap]
  simp only [casesOf_chat, hs, Suite.all, List.filter_cons, List.filter_nil]
  split <;> split <;> split <;> simp

theorem turns_accounted {cases : List Case} {notices : List (Notice Case)}
    {reports : List CaseReport} {s s' : Scene σ} (h : Accounts network cases notices s reports s') :
    (turns network cases s.gateway).map Prod.fst = cases ∧
      reports = (turns network cases s.gateway).map fun t => report t.1 t.2 := by
  obtain ⟨es, hl, hm, rfl⟩ := h.judged
  have ht : turns network cases s.gateway = cases.zip es := by rw [turns, hm]
  rw [ht]
  refine ⟨List.map_fst_zip (Nat.le_of_eq hl.symm), ?_⟩
  rw [List.map_zip_eq_zipWith]
  rfl

/-- What is shown of a protocol selection is what a run of it asks, whatever other suites the run
has and whatever the gateway answers: case by case, in the same order. -/
theorem run_as_shown (config : Config) (suites : List Suite) (protocols : List Protocol)
    (network : Network (StateM σ)) (s : Scene σ) :
    let plan := Plan.ofChoice suites protocols
    let outcome := run (watched network) watcher config plan s
    let taken := turns network (plan.cases config) s.gateway
    outcome.1 = taken.map (fun t => report t.1 t.2) ∧
    outcome.2.received = s.received ++ taken.filterMap (fun t => delivery? t.1) ∧
    List.Forall₂ (fun view t => AsPlanned view t.1 t.2)
      (if .chat ∈ plan.suites then (Plan.ofChoice [] protocols).plannedCases config else [])
      (taken.filter fun t => t.1.id.suite = .chat) := by
  intro plan outcome taken
  have ha := run_accounts network config plan s
  obtain ⟨hcases, hreports⟩ : taken.map Prod.fst = plan.cases config ∧
      outcome.1 = taken.map fun t => report t.1 t.2 := turns_accounted ha
  refine ⟨hreports, ?_, ?_⟩
  · have hr : outcome.2.received = s.received ++ (plan.cases config).filterMap delivery? :=
      ha.received
    rw [hr, ← hcases, List.filterMap_map]
    rfl
  · have hchat : (taken.filter fun t => t.1.id.suite = .chat).map Prod.fst =
        if .chat ∈ plan.suites then (selected plan config).map config.chatCase else [] := by
      rw [← cases_chat, ← hcases, List.filter_map]
      rfl
    split
    · rename_i hc
      rw [if_pos hc, ← List.forall₂_eq_eq_eq, List.forall₂_map_left_iff,
        List.forall₂_map_right_iff] at hchat
      rw [Plan.plannedCases, List.forall₂_map_left_iff]
      refine hchat.flip.imp fun k t ht => ?_
      rw [ht]
      exact chatCase_asPlanned config k t.2
    · rename_i hc
      rw [if_neg hc, List.map_eq_nil_iff] at hchat
      rw [hchat]
      exact .nil

end Sweep

end Conformance
