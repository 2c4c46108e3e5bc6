import Conformance.Proofs.Config.Accepted
import Conformance.Proofs.Config.Sources
import Conformance.Proofs.Sweep.Counts
import Conformance.Proofs.Sweep.Follow
import Conformance.Proofs.Sweep.Planned

/-! What the exit code says about a run, and that nothing was sent where there was none. -/
namespace Conformance.CommandLine

open Sweep Transport

variable {environment : Environment} {gateway : Gateway} {disk : Disk} {words : List String}
  {c : Config} {plan : Plan} {setUp : SetUp}

/-- The gateway alone, which remembers the requests it has seen. -/
def memory (gateway : Gateway) : Network (StateM (List Delivery)) where
  deliver d := fun seen => (gateway (seen ++ [d]), seen ++ [d])
  clock := pure 0

theorem network_mirrors (gateway : Gateway) :
    Mirrors Session.requests (Session.network gateway) (memory gateway) where
  deliver _ := fun _ => ⟨rfl, rfl⟩
  clock := fun _ => ⟨rfl, rfl⟩

theorem call_memory (gateway : Gateway) (c : Case) (seen : List Delivery) :
    (call (memory gateway) c seen).2 = seen ++ (delivery? c).toList := by
  unfold call Transport.send Transport.deliver delivery?
  cases hp : prepare c.request with
  | error failure => exact (List.append_nil seen).symm
  | ok d => rfl

theorem mapM_call_memory (gateway : Gateway) (cases : List Case) (seen : List Delivery) :
    (cases.mapM (call (memory gateway)) seen).2 = seen ++ cases.filterMap delivery? := by
  induction cases generalizing seen with
  | nil => exact (List.append_nil seen).symm
  | cons c rest ih =>
    rw [mapM_call_cons, ih, call_memory]
    cases hd : delivery? c <;> simp [hd]

section Keeping

theorem printLine_keeps (line : String) :
    Keeps Session.requests ((Session.world environment gateway setUp).printLine line) := fun _ => rfl

theorem complain_keeps (line : String) :
    Keeps Session.requests ((Session.world environment gateway setUp).complain line) := fun _ => rfl

theorem observer_hidden (environment : Environment) (gateway : Gateway) (setUp : SetUp) (c : Config)
    (isQuiet : Bool) :
    Hidden Session.requests (observer (Session.world environment gateway setUp) c isQuiet) where
  suiteStarted _ := .ite (.pure ()) (printLine_keeps _)
  protocolStarted _ := .ite (.pure ()) (printLine_keeps _)
  caseFinished _ := .ite (.pure ()) (printLine_keeps _)
  log _ := .ite (fun _ => rfl) (.pure ())

/-- Words that ask for no command are answered in text alone. -/
theorem refuse_keeps {τ : Type} {view : Session → τ}
    (hprint : ∀ line, Keeps view ((Session.world environment gateway setUp).printLine line))
    (hcomplain : ∀ line, Keeps view ((Session.world environment gateway setUp).complain line))
    (refusal : Refusal) :
    Keeps view (refuse (Session.world environment gateway setUp) refusal) := by
  have hother : Keeps view (do
      (Session.world environment gateway setUp).complain ("error: " ++ refusal.message)
      (Session.world environment gateway setUp).complain ""
      (Session.world environment gateway setUp).complain "For more information, try '--help'."
      pure 2) :=
    .bind (hcomplain _) fun _ => .bind (hcomplain _) fun _ =>
      .bind (hcomplain _) fun _ => .pure 2
  cases refusal with
  | help path => exact .bind (.forM hprint) fun _ => .pure 0
  | version => exact .bind (hprint _) fun _ => .pure 0
  | helpOnNothing path => exact .bind (.forM hcomplain) fun _ => .pure 2
  | _ => exact hother

theorem connect_keeps (c : Config) :
    Keeps Session.requests (connect (Session.world environment gateway setUp) c) := by
  unfold connect
  cases c.check with
  | error e => exact .pure _
  | ok _ => exact .bind (.pure _) fun _ => .pure _

theorem handleMatrix_keeps (a : MatrixArguments) :
    Keeps Session.requests (handleMatrix (Session.world environment gateway setUp) a) := by
  refine .bind (fun s => ?_) fun found => ?_
  · exact congrArg (fun r => r.2.requests) (matrixConfig_eq Session.files_shows environment a s)
  · cases found with
    | error e => exact .pure _
    | ok c =>
      refine .bind (connect_keeps c) fun client => ?_
      cases client with
      | error e => exact .pure _
      | ok _ => exact .bind (printLine_keeps _) fun _ => .pure _

theorem handleInit_keeps (a : InitArguments) :
    Keeps Session.requests (handleInit (Session.world environment gateway setUp) a) := by
  refine .bind (.bind (fun _ => rfl) fun there => ?_) fun written => ?_
  · exact .ite (.pure _) (.bind (fun _ => rfl) fun _ => .pure _)
  · cases written with
    | error e => exact .pure _
    | ok _ => exact .bind (printLine_keeps _) fun _ => .bind (printLine_keeps _) fun _ => .pure _

end Keeping

/-! ### A run -/

theorem hasFailures_eq (r : Report) : r.hasFailures = !r.cases.all (·.passed) := by
  rw [Bool.eq_iff_iff]
  simp [Report.hasFailures, Report.summary, Summary.ofCases_eq, Summary.counted,
    List.countP_eq_zero]

/-- The report of a run in memory, where no time passes. -/
def Session.reportOf (c : Config) (cases : List CaseReport) : Report where
  runId := "00000000-0000-0000-0000-000000000000"
  target := c.baseUrl
  startedAt := "1970-01-01T00:00:00Z"
  finishedAt := "1970-01-01T00:00:00Z"
  cases := cases

/-- What is printed when a run has ended. -/
def lastLine (environment : Environment) (isJson : Bool) (r : Report) : String :=
  if isJson then Console.reportJson r else Console.summary (wantsColours false environment) r

theorem runPlan_eq (environment : Environment) (gateway : Gateway) (setUp : SetUp) (c : Config)
    (a : RunArguments) (s : Session) :
    ∃ s₁ : Session, s₁.requests = s.requests ∧
      let run := Sweep.run (Session.network gateway)
        (observer (Session.world environment gateway setUp) c a.json) c
        (.ofChoice a.suites a.protocols) s₁
      let r := Session.reportOf c run.1
      runPlan (Session.world environment gateway setUp) (Session.network gateway) c a s =
        (!r.hasFailures,
          { run.2 with printed := run.2.printed ++ [lastLine environment a.json r] }) := by
  cases hj : a.json with
  | true =>
    refine ⟨s, rfl, ?_⟩
    simp only [runPlan, hj, lastLine, if_true]
    rfl
  | false =>
    refine ⟨{ s with printed := s.printed ++ ["Target: " ++ c.baseUrl] }, rfl, ?_⟩
    simp only [runPlan, hj, lastLine]
    rfl

/-- What a run comes to at a gateway that has seen some requests: whatever is printed on the way,
the plan is gone through case by case. -/
theorem run_session (environment : Environment) (gateway : Gateway) (setUp : SetUp) (c : Config)
    (plan : Plan) (isQuiet : Bool) (s : Session) :
    let run := Sweep.run (Session.network gateway)
      (observer (Session.world environment gateway setUp) c isQuiet) c plan s
    run.1 = (turns (memory gateway) (plan.cases c) s.requests).map (fun t => report t.1 t.2) ∧
    run.2.requests = s.requests ++ (plan.cases c).filterMap delivery? := by
  intro run
  obtain ⟨hr, hs⟩ := run_follows (network_mirrors gateway)
    (observer_hidden environment gateway setUp c isQuiet) c plan s
  have ha := run_accounts (memory gateway) c plan ⟨s.requests, [], []⟩
  have hu := run_unmoved (memory gateway) c plan ⟨s.requests, [], []⟩
  obtain ⟨exchanges, _, hm, _⟩ := ha.judged
  refine ⟨?_, ?_⟩
  · rw [hr, hu]
    exact (turns_accounted ha).2
  · rw [hs, hu]
    exact (congrArg Prod.snd hm).symm.trans (mapM_call_memory gateway (plan.cases c) s.requests)

/-- A run asks what its plan calls for, and prints at last what came of it. -/
theorem runPlan_spec (environment : Environment) (gateway : Gateway) (setUp : SetUp) (c : Config)
    (a : RunArguments) (s : Session) :
    let plan := Plan.ofChoice a.suites a.protocols
    let reports := (turns (memory gateway) (plan.cases c) s.requests).map fun t => report t.1 t.2
    let done := runPlan (Session.world environment gateway setUp) (Session.network gateway) c a s
    done.1 = reports.all (·.passed) ∧
    done.2.requests = s.requests ++ (plan.cases c).filterMap delivery? ∧
    done.2.printed.getLast? = some (lastLine environment a.json (Session.reportOf c reports)) := by
  intro plan reports done
  obtain ⟨s₁, hs, hd⟩ := runPlan_eq environment gateway setUp c a s
  obtain ⟨hr, hq⟩ := run_session environment gateway setUp c plan a.json s₁
  rw [hs] at hr hq
  have hdone : done = _ := hd
  refine ⟨?_, ?_, ?_⟩
  · rw [hdone, hr, hasFailures_eq]
    exact Bool.not_not _
  · rw [hdone]
    exact hq
  · rw [hdone, hr]
    exact List.getLast?_concat

/-! ### Commands -/

theorem perform_of_parse (gateway : Gateway) (disk : Disk) (setUp : SetUp) {invocation : Invocation}
    (h : parse environment words = .ok invocation) :
    let done := handle (Session.world environment gateway setUp) invocation { disk := disk }
    let ended := perform environment gateway disk words setUp
    ended.1 = exitCode done.1 ∧ ended.2.requests = done.2.requests ∧
      ended.2.printed = done.2.printed ∧ ended.2.disk = done.2.disk := by
  have hp : parse (Session.world environment gateway setUp).environment words = .ok invocation := h
  simp only [perform, execute, hp, StateT.run, bind, StateT.bind]
  generalize handle (Session.world environment gateway setUp) invocation { disk := disk } = done
  obtain ⟨result, s⟩ := done
  cases result <;> exact ⟨rfl, rfl, rfl, rfl⟩

theorem perform_of_refusal {refusal : Refusal} (h : parse environment words = .error refusal) :
    let ended := perform environment gateway disk words setUp
    ended.2.requests = [] ∧ ended.2.disk = disk := by
  have hp : parse (Session.world environment gateway setUp).environment words = .error refusal := h
  have hdisk : Keeps Session.disk (refuse (Session.world environment gateway setUp) refusal) :=
    refuse_keeps (fun _ _ => rfl) (fun _ _ => rfl) refusal
  simp only [perform, execute, hp]
  exact ⟨refuse_keeps printLine_keeps complain_keeps refusal { disk := disk },
    hdisk { disk := disk }⟩

/-- These arguments come to a configuration that is sound, and what the run needs beside it comes
up. -/
structure RunArguments.Ready (a : RunArguments) (environment : Environment) (disk : Disk)
    (setUp : SetUp) (c : Config) : Prop where
  resolved : a.resolved environment disk = .ok c
  sound : c.check = .ok ()
  log : setUp.log = .ok ()
  client : setUp.client = .ok ()

/-- What is to be run of a configuration. -/
def RunArguments.choice (a : RunArguments) : Plan :=
  .ofChoice a.suites a.protocols

theorem complaints_keep (environment : Environment) (gateway : Gateway)
    (complaints : List String) :
    Keeps Session.requests
      (complaints.forM (Session.world environment gateway setUp).complain) :=
  .forM complain_keeps

/-- What keeps a run of this configuration from starting, if anything does. -/
def SetUp.start (setUp : SetUp) (c : Config) : Except Fatal Unit :=
  match setUp.log, c.check, setUp.client with
  | .error reason, _, _ => .error (.noLog reason)
  | .ok (), .error e, _ => .error (.config e)
  | .ok (), .ok (), .error reason => .error (.noClient reason)
  | .ok (), .ok (), .ok () => .ok ()

theorem SetUp.start_eq_ok : setUp.start c = .ok () ↔
    setUp.log = .ok () ∧ c.check = .ok () ∧ setUp.client = .ok () := by
  unfold SetUp.start
  cases setUp.log <;> cases c.check <;> cases setUp.client <;> simp

/-- A run starts or it does not. Either way the gateway has seen nothing until then. -/
theorem handleRun_eq (gateway : Gateway) (setUp : SetUp) {a : RunArguments} (s : Session)
    (h : a.resolved environment s.disk = .ok c) :
    ∃ s₁ : Session, s₁.requests = s.requests ∧
      handleRun (Session.world environment gateway setUp) a s =
        match setUp.start c with
        | .error e => (.error e, s₁)
        | .ok () =>
          let done := runPlan (Session.world environment gateway setUp)
            (Session.network gateway) c a s₁
          (.ok done.1, done.2) := by
  let complaints := Log.Filter.complaints environment c.logging.directives
  refine ⟨(complaints.forM (Session.world environment gateway setUp).complain s).2,
    complaints_keep environment gateway complaints s, ?_⟩
  have hconfig : runConfig (Session.world environment gateway setUp).files environment a s =
      (.ok c, s) := by
    rw [← h]
    exact runConfig_eq Session.files_shows environment a s
  have hw : (Session.world environment gateway setUp).environment = environment := rfl
  have hlog : (Session.world environment gateway setUp).startLog = pure setUp.log := rfl
  have hclient (seconds : Nat) : (Session.world environment gateway setUp).network seconds =
      pure (setUp.client.map fun _ => Session.network gateway) := rfl
  simp only [handleRun, bind, StateT.bind, hw, hconfig, hlog, connect, hclient, SetUp.start]
  cases setUp.log with
  | error reason => rfl
  | ok _ =>
    cases c.check with
    | error e => rfl
    | ok _ => cases setUp.client <;> rfl

theorem handleRun_ready (gateway : Gateway) {a : RunArguments} (s : Session)
    (h : a.Ready environment s.disk setUp c) :
    ∃ s₁ : Session, s₁.requests = s.requests ∧
      let done := runPlan (Session.world environment gateway setUp) (Session.network gateway) c a s₁
      handleRun (Session.world environment gateway setUp) a s = (.ok done.1, done.2) := by
  obtain ⟨s₁, hs₁, hrun⟩ := handleRun_eq gateway setUp s h.resolved
  rw [SetUp.start_eq_ok.mpr ⟨h.log, h.sound, h.client⟩] at hrun
  exact ⟨s₁, hs₁, hrun⟩

theorem handleRun_unready (gateway : Gateway) {a : RunArguments} (s : Session)
    (h : ∀ c, ¬ a.Ready environment s.disk setUp c) :
    ∃ e, (handleRun (Session.world environment gateway setUp) a s).1 = .error e ∧
      (handleRun (Session.world environment gateway setUp) a s).2.requests = s.requests := by
  cases hr : a.resolved environment s.disk with
  | error e =>
    have hw : (Session.world environment gateway setUp).environment = environment := rfl
    have hconfig : runConfig (Session.world environment gateway setUp).files environment a s =
        (.error e, s) := by
      rw [← hr]
      exact runConfig_eq Session.files_shows environment a s
    simp only [handleRun, bind, StateT.bind, hw, hconfig]
    exact ⟨.config e, rfl, rfl⟩
  | ok c =>
    obtain ⟨s₁, hs₁, hrun⟩ := handleRun_eq gateway setUp s hr
    cases hstart : setUp.start c with
    | ok _ =>
      obtain ⟨hlog, hsound, hclient⟩ := SetUp.start_eq_ok.mp hstart
      exact absurd ⟨hr, hsound, hlog, hclient⟩ (h c)
    | error e =>
      rw [hstart] at hrun
      rw [hrun]
      exact ⟨e, rfl, hs₁⟩

/-- The outcomes of all cases, for a gateway that has seen nothing before. -/
def outcomes (gateway : Gateway) (c : Config) (plan : Plan) : List CaseReport :=
  (turns (memory gateway) (plan.cases c) []).map fun t => report t.1 t.2

theorem outcomes_ids (gateway : Gateway) (c : Config) (plan : Plan) :
    (outcomes gateway c plan).map CaseReport.id = (plan.cases c).map Case.id := by
  have ha := run_accounts (memory gateway) c plan ⟨[], [], []⟩
  obtain ⟨hcases, _⟩ := turns_accounted ha
  rw [outcomes, List.map_map, ← hcases, List.map_map, hcases]
  rfl

/-- The end of a run: every case has its outcome, what the gateway saw is what they asked, and the
exit code and the last line printed say what came of them. -/
structure Ends (gateway : Gateway) (c : Config) (plan : Plan) (lastLine : Report → String)
    (ended : Nat × Session) : Prop where
  complete : (outcomes gateway c plan).map CaseReport.id = (plan.cases c).map Case.id
  sent : ended.2.requests = (plan.cases c).filterMap delivery?
  printed : ended.2.printed.getLast? =
    some (lastLine (Session.reportOf c (outcomes gateway c plan)))
  zero_iff : ended.1 = 0 ↔ ∀ r ∈ outcomes gateway c plan, r.passed
  one_iff : ended.1 = 1 ↔ ∃ r ∈ outcomes gateway c plan, ¬ r.passed

namespace Ends

variable {lastLine lastLine' : Report → String} {ended ended' : Nat × Session}

theorem code (h : Ends gateway c plan lastLine ended) :
    (ended.1 = 0 ∧ ∀ r ∈ outcomes gateway c plan, r.passed) ∨
      (ended.1 = 1 ∧ ∃ r ∈ outcomes gateway c plan, ¬ r.passed) := by
  by_cases hp : ∀ r ∈ outcomes gateway c plan, r.passed
  · exact .inl ⟨h.zero_iff.mpr hp, hp⟩
  · have hf : ∃ r ∈ outcomes gateway c plan, ¬ r.passed := by simpa using hp
    exact .inr ⟨h.one_iff.mpr hf, hf⟩

/-- However the reports are printed, runs of one plan end alike. -/
theorem alike (h : Ends gateway c plan lastLine ended) (h' : Ends gateway c plan lastLine' ended') :
    ended.1 = ended'.1 ∧ ended.2.requests = ended'.2.requests := by
  refine ⟨?_, h.sent.trans h'.sent.symm⟩
  obtain ⟨h0, hp⟩ | ⟨h1, hf⟩ := h.code
  · rw [h0, h'.zero_iff.mpr hp]
  · rw [h1, h'.one_iff.mpr hf]

end Ends

theorem perform_ready (gateway : Gateway) {a : RunArguments}
    (h : parse environment words = .ok (.run a))
    (hs : a.Ready environment disk setUp c) :
    Ends gateway c a.choice (lastLine environment a.json)
      (perform environment gateway disk words setUp) := by
  obtain ⟨hcode, hrequests, hprinted, _⟩ := perform_of_parse gateway disk setUp h
  obtain ⟨s₁, hs₁, hdone⟩ := handleRun_ready gateway { disk := disk } hs
  obtain ⟨hpassed, hsent, hlast⟩ := runPlan_spec environment gateway setUp c a s₁
  have hnone : s₁.requests = [] := hs₁
  rw [hnone] at hpassed hsent hlast
  simp only [handle, hdone] at hcode hrequests hprinted
  rw [hpassed] at hcode
  refine ⟨outcomes_ids gateway c a.choice, ?_, ?_, ?_, ?_⟩
  · exact hrequests.trans hsent
  · rw [hprinted]
    exact hlast
  · rw [hcode, ← List.all_eq_true]
    change exitCode (.ok ((outcomes gateway c a.choice).all (·.passed))) = 0 ↔ _
    cases (outcomes gateway c a.choice).all (·.passed) <;> decide
  · have hany : (∃ r ∈ outcomes gateway c a.choice, ¬ r.passed) ↔
        (outcomes gateway c a.choice).all (·.passed) = false := by simp
    rw [hcode, hany]
    change exitCode (.ok ((outcomes gateway c a.choice).all (·.passed))) = 1 ↔ _
    cases (outcomes gateway c a.choice).all (·.passed) <;> decide

theorem perform_unready {a : RunArguments} (h : parse environment words = .ok (.run a))
    (hs : ∀ c, ¬ a.Ready environment disk setUp c) :
    (perform environment gateway disk words setUp).1 = 2 ∧
      (perform environment gateway disk words setUp).2.requests = [] := by
  obtain ⟨hcode, hrequests, _⟩ := perform_of_parse gateway disk setUp h
  obtain ⟨e, he, hkept⟩ := handleRun_unready gateway { disk := disk } hs
  rw [hcode, hrequests]
  simp only [handle, he]
  exact ⟨rfl, hkept⟩

theorem perform_other (h : ∀ a, parse environment words ≠ .ok (.run a)) :
    (perform environment gateway disk words setUp).2.requests = [] := by
  cases hp : parse environment words with
  | error refusal => exact (perform_of_refusal hp).1
  | ok invocation =>
    obtain ⟨_, hrequests, _⟩ := perform_of_parse gateway disk setUp hp
    rw [hrequests]
    cases invocation with
    | run a => exact absurd hp (h a)
    | matrix a => exact handleMatrix_keeps a { disk := disk }
    | init a => exact handleInit_keeps a { disk := disk }
    | completions shell =>
      exact Keeps.bind (.forM printLine_keeps) (fun _ => .pure _) { disk := disk }

/-- The exit code tells the truth, however the parts that a command needs come up. A run that has a
sound configuration, its log and its client goes through the whole of its plan and ends with 0 or 1
as its cases do; any other run ends with 2. Nothing is sent by a program that ends with 2, nor by any
other command, and how the report is printed makes no difference. -/
theorem exitCode_truthful (gateway : Gateway) :
    (∀ environment disk words setUp a, parse environment words = .ok (.run a) →
      (∀ c, a.Ready environment disk setUp c →
        Ends gateway c a.choice (lastLine environment a.json)
          (perform environment gateway disk words setUp)) ∧
      ((∀ c, ¬ a.Ready environment disk setUp c) →
        (perform environment gateway disk words setUp).1 = 2)) ∧
    (∀ environment disk words setUp,
      (perform environment gateway disk words setUp).1 = 2 ∨
        (∀ a, parse environment words ≠ .ok (.run a)) →
      (perform environment gateway disk words setUp).2.requests = []) ∧
    ∀ environment disk words setUp a environment' disk' words' setUp' a' c,
      parse environment words = .ok (.run a) → parse environment' words' = .ok (.run a') →
      a.Ready environment disk setUp c → a'.Ready environment' disk' setUp' c →
      a.choice = a'.choice →
      (perform environment gateway disk words setUp).1 =
        (perform environment' gateway disk' words' setUp').1 ∧
      (perform environment gateway disk words setUp).2.requests =
        (perform environment' gateway disk' words' setUp').2.requests := by
  refine ⟨fun environment disk words setUp a h => ⟨fun c hs => perform_ready gateway h hs,
    fun hs => (perform_unready h hs).1⟩, ?_, ?_⟩
  · intro environment disk words setUp h
    by_cases hrun : ∃ a, parse environment words = .ok (.run a)
    · obtain ⟨a, ha⟩ := hrun
      have hcode : (perform environment gateway disk words setUp).1 = 2 :=
        h.resolve_right fun hn => hn a ha
      -- a run that is ready ends with 0 or 1, so this one is not
      refine (perform_unready ha fun c hs => ?_).2
      obtain ⟨h0, _⟩ | ⟨h1, _⟩ := (perform_ready gateway ha hs).code
      · cases h0.symm.trans hcode
      · cases h1.symm.trans hcode
    · exact perform_other fun a ha => hrun ⟨a, ha⟩
  · intro environment disk words setUp a environment' disk' words' setUp' a' c h h' hs hs' hplan
    have hends := perform_ready gateway h hs
    rw [hplan] at hends
    exact hends.alike (perform_ready gateway h' hs')

/-- Of these runs the first two end alike, and the others end before anything is sent. -/
theorem exitCode_truthful_default :
    let plain := perform [] .absent {} ["run"]
    let json := perform [] .absent {} ["run", "--json"]
    let hasty := perform [] .absent {} ["run", "--timeout=0"]
    let cut := perform [] .absent {} ["run"] { client := .error "no certificates" }
    (plain.1 = 0 ↔ ∀ r ∈ outcomes .absent {} .everything, r.passed) ∧
    plain.1 = json.1 ∧ plain.2.requests = json.2.requests ∧
    hasty.1 = 2 ∧ hasty.2.requests = [] ∧ cut.1 = 2 ∧ cut.2.requests = [] := by
  obtain ⟨hrun, hnone, hsame⟩ := exitCode_truthful .absent
  have hp : parse [] ["run"] = .ok (.run {}) := rfl
  have hj : parse [] ["run", "--json"] = .ok (.run { json := true }) := rfl
  have ht : parse [] ["run", "--timeout=0"] = .ok (.run { timeout := some 0 }) := rfl
  have hs : RunArguments.Ready {} [] {} {} {} := ⟨rfl, Config.check_default, rfl, rfl⟩
  have hs' : RunArguments.Ready { json := true } [] {} {} {} :=
    ⟨rfl, Config.check_default, rfl, rfl⟩
  have hcode : (perform [] .absent {} ["run", "--timeout=0"]).1 = 2 := by
    refine (hrun [] {} _ {} _ ht).2 fun c hc => ?_
    cases hc.resolved
    cases hc.sound
  have hcut : (perform [] .absent {} ["run"] { client := .error "no certificates" }).1 = 2 := by
    refine (hrun [] {} _ _ _ hp).2 fun c hc => ?_
    cases hc.client
  obtain ⟨hcodes, hrequests⟩ := hsame [] {} _ {} _ [] {} _ {} _ {} hp hj hs hs' rfl
  have hall : RunArguments.choice {} = .everything := rfl
  have hends := (hrun [] {} _ {} _ hp).1 {} hs
  rw [hall] at hends
  exact ⟨hends.zero_iff, hcodes, hrequests, hcode, hnone [] {} _ {} (.inl hcode), hcut,
    hnone [] {} _ _ (.inl hcut)⟩

end Conformance.CommandLine
