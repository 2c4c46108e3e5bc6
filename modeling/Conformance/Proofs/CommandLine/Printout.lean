import Conformance.Proofs.CommandLine.ExitCode
import Conformance.Proofs.Console.Lines
import Conformance.Proofs.Reply.Wording
import Conformance.Proofs.Sweep.Secrecy

/-! What a run prints, line by line: the outcome of each case begins a line of its own, and it ends
there unless something is passed on in it that has more lines. -/
namespace Conformance

open Text (OneLine oneLine_append)

/-! ### Labels -/

/-- The case is asked for in front of a group's name. -/
def CaseId.OnGroup (id : CaseId) : Prop :=
  ∃ name, id.route = some (.group name) ∨ id.route = some (.groupCompat name)

theorem Route.oneLine_label (r : Route) : OneLine r.label ↔
    ∀ name, r = .group name ∨ r = .groupCompat name → OneLine name := by
  cases r with
  | default | switch | switchCompat => exact iff_of_true (by decide) (by simp)
  | group name =>
    have hslash : OneLine "/" := by decide
    simp [Route.label, Route.path, oneLine_append, hslash]
  | groupCompat name =>
    have hslash : OneLine "/" := by decide
    have hcompat : OneLine "/compat" := by decide
    simp [Route.label, Route.path, oneLine_append, hslash, hcompat]

/-- The routes of a configuration name its own group, if any. -/
theorem Config.group_of_chatCases {config : Config} {p : Protocol} {k : ChatCase}
    (hk : k ∈ config.chatCases p) {name : String}
    (hn : k.route = .group name ∨ k.route = .groupCompat name) :
    name = config.models.groupName := by
  obtain ⟨⟨route, model⟩, hroute, hk⟩ := List.mem_flatMap.mp hk
  obtain ⟨scenario, _, rfl⟩ := List.mem_map.mp hk
  obtain ⟨r, hr, he⟩ := List.mem_map.mp hroute
  cases he
  simp only [Route.all, List.mem_cons, List.not_mem_nil, or_false] at hr
  obtain rfl | rfl | rfl | rfl | rfl := hr <;> obtain hn | hn := hn <;> cases hn <;> rfl

theorem Config.oneLine_chatLabel {config : Config} {p : Protocol} {k : ChatCase}
    (hk : k ∈ config.chatCases p) : OneLine (config.chatCase k).id.label ↔
      ((config.chatCase k).id.OnGroup → OneLine config.models.groupName) := by
  have hscenario : OneLine k.scenario.label := by cases k.scenario <;> decide
  have harrow : OneLine " -> " := by decide
  have hlabel : OneLine k.label ↔ OneLine k.route.label := by
    rw [ChatCase.label, oneLine_append, oneLine_append, and_iff_right ⟨hscenario, harrow⟩]
  refine hlabel.trans (k.route.oneLine_label.trans ⟨?_, ?_⟩)
  · rintro h ⟨name, hn⟩
    have hr : k.route = .group name ∨ k.route = .groupCompat name :=
      hn.imp Option.some.inj Option.some.inj
    exact group_of_chatCases hk hr ▸ h name hr
  · intro h name hn
    rw [group_of_chatCases hk hn]
    exact h ⟨name, hn.imp (congrArg some) (congrArg some)⟩

theorem Config.oneLine_probe {suite : Suite} {label method url : String} {headers : Headers}
    {body : Except String (Option Body)} {check : Check} {p : Protocol} (h : OneLine label)
    (P : Prop) : OneLine (probe suite label method url headers body check p).id.label ↔
      ((probe suite label method url headers body check p).id.OnGroup → P) := by
  refine iff_of_true h ?_
  rintro ⟨_, hr | hr⟩ <;> cases hr

/-- Only a group's name can break a label. -/
theorem Plan.oneLine_label {plan : Plan} {config : Config} {c : Case}
    (hc : c ∈ plan.cases config) :
    OneLine c.id.label ↔ (c.id.OnGroup → OneLine config.models.groupName) := by
  obtain ⟨suite, _, hc⟩ := List.mem_flatMap.mp hc
  cases suite with
  | models =>
    have hl := List.mem_of_mem_filter hc
    simp only [Config.listings, List.mem_cons, List.not_mem_nil, or_false] at hl
    obtain rfl | rfl | rfl | rfl | rfl := hl <;> exact Config.oneLine_probe (by decide) _
  | embeddings =>
    have hl := List.mem_of_mem_filter hc
    simp only [Config.embeddings, List.mem_cons, List.not_mem_nil, or_false] at hl
    obtain rfl | rfl | rfl := hl <;> exact Config.oneLine_probe (by decide) _
  | chat =>
    obtain ⟨p, _, hc⟩ := List.mem_flatMap.mp hc
    rw [Plan.chats_eq] at hc
    obtain ⟨k, hk, rfl⟩ := List.mem_map.mp hc
    exact Config.oneLine_chatLabel hk

namespace CommandLine

open Sweep Transport

variable {α β : Type} {network : Network (StateM Session)} {observer : Observer (StateM Session)}
  {text : Notice CaseReport → String} {n : Nat}

/-! ### What is printed on the way -/

/-- One text is printed, which tells the outcome. -/
def Says (text : α → String) (x : StateM Session α) : Prop :=
  ∀ s, (x s).2.printed = s.printed ++ [text (x s).1]

theorem Says.after {text : β → String} {x : StateM Session α} {f : α → StateM Session β}
    (hx : Keeps Session.printed x) (hf : ∀ a, Says text (f a)) : Says text (x >>= f) := by
  intro s
  refine (hf (x s).1 (x s).2).trans ?_
  rw [hx s]
  rfl

/-- A text is printed for each notice, and nothing else. -/
structure Announced (text : Notice CaseReport → String) (network : Network (StateM Session))
    (observer : Observer (StateM Session)) : Prop where
  deliver (d : Delivery) : Keeps Session.printed (network.deliver d)
  clock : Keeps Session.printed network.clock
  log (e : Log.Entry) : Keeps Session.printed (observer.log e)
  suite (suite : Suite) : Says (fun _ => text (.suite suite)) (observer.suiteStarted suite)
  protocol (p : Protocol) : Says (fun _ => text (.protocol p)) (observer.protocolStarted p)
  case (r : CaseReport) : Says (fun _ => text (.case r)) (observer.caseFinished r)

theorem send_printed (h : Announced text network observer) (r : Request) :
    Keeps Session.printed (Transport.send network observer.log r) := by
  refine .bind h.clock fun start => .bind ?_ fun result => .bind h.clock fun stop =>
    .bind (h.log _) fun _ => .pure _
  unfold Transport.deliver
  split
  · exact h.deliver _
  · exact .pure _

theorem finish_printed (h : Announced text network observer) (r : CaseReport) :
    Says (fun r => text (.case r)) (do observer.caseFinished r; pure r) := h.case r

theorem callCase_printed (h : Announced text network observer) (k : Case) :
    Says (fun r => text (.case r)) (callCase network observer n k) := by
  refine .after (send_printed h k.request) fun exchange => ?_
  by_cases hp : (report k exchange).passed
  · simp only [if_pos hp]
    exact finish_printed h _
  · simp only [if_neg hp]
    exact .after (h.log _) fun _ => finish_printed h _

theorem runCase_printed (h : Announced text network observer) (k : Case) :
    Says (fun r => text (.case r)) (runCase network observer n k) := by
  unfold runCase
  cases k.unwritten? with
  | none => exact callCase_printed h k
  | some why => exact .after (h.log _) fun _ => finish_printed h _

/-- Step by step, what there is to tell is printed, the report of each case among it. -/
theorem runSteps_printed (h : Announced text network observer) (steps : List Step) (s : Session) :
    let done := runSteps network observer n steps s
    ∃ told : List (Notice CaseReport), told.filterMap Notice.case? = done.1 ∧
      done.2.printed = s.printed ++ told.map text := by
  induction steps generalizing s with
  | nil => exact ⟨[], rfl, (List.append_nil _).symm⟩
  | cons step rest ih =>
    cases step with
    | suiteStarted suite =>
      obtain ⟨told, hcases, hprinted⟩ := ih (observer.suiteStarted suite s).2
      refine ⟨.suite suite :: told, hcases, hprinted.trans ?_⟩
      rw [h.suite, List.append_assoc]
      rfl
    | protocolStarted p =>
      obtain ⟨told, hcases, hprinted⟩ := ih (observer.protocolStarted p s).2
      refine ⟨.protocol p :: told, hcases, hprinted.trans ?_⟩
      rw [h.protocol, List.append_assoc]
      rfl
    | case k =>
      obtain ⟨told, hcases, hprinted⟩ := ih (runCase network observer n k s).2
      refine ⟨.case (runCase network observer n k s).1 :: told, congrArg (List.cons _) hcases,
        hprinted.trans ?_⟩
      rw [runCase_printed h, List.append_assoc]
      rfl
    | suiteFinished suite cases =>
      obtain ⟨told, hcases, hprinted⟩ := ih (observer.log (suiteEntry suite cases) s).2
      exact ⟨told, hcases, hprinted.trans (by rw [h.log])⟩

theorem run_printed (h : Announced text network observer) (c : Config) (plan : Plan) (s : Session) :
    let done := Sweep.run network observer c plan s
    ∃ told : List (Notice CaseReport), told.filterMap Notice.case? = done.1 ∧
      done.2.printed = s.printed ++ told.map text := by
  obtain ⟨told, hcases, hprinted⟩ := runSteps_printed (n := c.logging.failureBodyChars) h
    (plan.steps c) (observer.log (startEntry c plan) s).2
  refine ⟨told, hcases, ?_⟩
  have hfinish := h.log (finishEntry (.ofCases
    (runSteps network observer c.logging.failureBodyChars (plan.steps c)
      (observer.log (startEntry c plan) s).2).1))
  exact (hfinish _).trans (hprinted.trans (by rw [h.log]))

/-- What is printed of a notice. -/
def noticeText (colours : Bool) : Notice CaseReport → String
  | .suite s => Console.suiteHeading colours s.title
  | .protocol p => Console.protocolHeading colours p
  | .case r => Console.caseLine colours r

theorem announced (environment : Environment) (gateway : Gateway) (c : Config) :
    Announced (noticeText (wantsColours false environment)) (Session.network gateway)
      (CommandLine.observer (Session.world environment gateway) c false) where
  deliver _ := fun _ => rfl
  clock := fun _ => rfl
  log _ := .ite (fun _ => rfl) (.pure ())
  suite _ := fun _ => rfl
  protocol _ := fun _ => rfl
  case _ := fun _ => rfl

/-! ### What is printed in all -/

/-- Of the notices of a run, only the cases are tagged. -/
theorem taggedLines_told (passed : Bool) (told : List (Notice CaseReport)) :
    let reports := told.filterMap Notice.case?
    Console.taggedLines passed (told.map (noticeText false)) =
      reports.countP (·.passed = passed) +
        Console.strayLines passed (reports.map (Console.caseLine false)) := by
  intro reports
  induction told with
  | nil => rfl
  | cons notice told ih =>
    have hcons : Console.taggedLines passed ((notice :: told).map (noticeText false)) =
        Console.taggedLines passed [noticeText false notice] +
          Console.taggedLines passed (told.map (noticeText false)) :=
      Console.taggedLines_append passed [_] _
    rw [hcons, ih]
    cases notice with
    | suite suite =>
      rw [noticeText, Console.taggedLines_of_untagged _ (Console.untagged_suiteHeading suite)]
      exact Nat.zero_add _
    | protocol p =>
      rw [noticeText, Console.taggedLines_of_untagged _ (Console.untagged_protocolHeading p)]
      exact Nat.zero_add _
    | case r =>
      have hcases : reports = r :: told.filterMap Notice.case? := rfl
      have hstray : Console.strayLines passed (reports.map (Console.caseLine false)) =
          Console.strayLines passed [Console.caseLine false r] + Console.strayLines passed
            ((told.filterMap Notice.case?).map (Console.caseLine false)) :=
        Console.strayLines_append passed [_] _
      rw [hstray, noticeText, Console.taggedLines_caseLine, hcases, List.countP_cons]
      simp only [decide_eq_true_eq]
      omega

theorem caseLines_told (told : List (Notice CaseReport)) :
    ((told.filterMap Notice.case?).map (Console.caseLine false)).Sublist
      (told.map (noticeText false)) := by
  induction told with
  | nil => exact .slnil
  | cons notice told ih =>
    cases notice with
    | suite suite => exact ih.cons _
    | protocol p => exact ih.cons _
    | case r => exact ih.cons_cons _

theorem taggedLines_target (passed : Bool) (url : String) :
    Console.taggedLines passed ["Target: " ++ url] =
      Console.strayLines passed ["Target: " ++ url] := by
  obtain ⟨first, rest, _, hlines⟩ := Console.lines_append (by decide : OneLine "Target: ") url
  have hfirst : Console.isTagged passed ("Target: ".toList ++ first) = false := by
    cases passed <;> rfl
  simp only [Console.taggedLines, Console.strayLines, List.flatMap_singleton, hlines,
    List.countP_cons, hfirst, List.tail_cons]
  exact Nat.add_zero _

theorem runPlan_plain (environment : Environment) (gateway : Gateway) (c : Config)
    {a : RunArguments} (htext : a.json = false) (s : Session) :
    let s₁ := { s with printed := s.printed ++ ["Target: " ++ c.baseUrl] }
    let run := Sweep.run (Session.network gateway)
      (CommandLine.observer (Session.world environment gateway) c false) c a.choice s₁
    let r := Session.reportOf c run.1
    runPlan (Session.world environment gateway) (Session.network gateway) c a s =
      (!r.hasFailures, { run.2 with
        printed := run.2.printed ++ [Console.summary (wantsColours false environment) r] }) := by
  simp only [runPlan, htext]
  rfl

/-- The cases of a run, each with the exchange it ends in. -/
def judged (gateway : Gateway) (c : Config) (a : RunArguments) (s : Session) :
    List (Case × Exchange) := turns (memory gateway) (a.choice.cases c) s.requests

/-- The outcomes of a run. -/
def reports (gateway : Gateway) (c : Config) (a : RunArguments) (s : Session) : List CaseReport :=
  (judged gateway c a s).map fun t => report t.1 t.2

/-- The texts that are printed with something in them that is not this program's: the address of
the gateway, and the lines of the cases. -/
def exposed (gateway : Gateway) (c : Config) (a : RunArguments) (s : Session) : List String :=
  ("Target: " ++ c.baseUrl) :: (reports gateway c a s).map (Console.caseLine false)

theorem runPlan_printed (environment : Environment) (gateway : Gateway) (c : Config)
    {a : RunArguments} (htext : a.json = false) (s : Session) :
    let colours := wantsColours false environment
    let r := Session.reportOf c (reports gateway c a s)
    ∃ told : List (Notice CaseReport), told.filterMap Notice.case? = reports gateway c a s ∧
      (runPlan (Session.world environment gateway) (Session.network gateway) c a s).2.printed =
        s.printed ++ ("Target: " ++ c.baseUrl) ::
          (told.map (noticeText colours) ++ [Console.summary colours r]) := by
  intro colours r
  obtain ⟨told, hcases, hprinted⟩ := run_printed (announced environment gateway c) c a.choice
    { s with printed := s.printed ++ ["Target: " ++ c.baseUrl] }
  have hreports : _ = reports gateway c a s := (run_session environment gateway {} c a.choice false
    { s with printed := s.printed ++ ["Target: " ++ c.baseUrl] }).1
  refine ⟨told, hcases.trans hreports, ?_⟩
  rw [runPlan_plain environment gateway c htext s]
  dsimp only
  rw [hprinted, hreports]
  simp [colours, r]

/-- As many lines are tagged as cases came out that way, and those that are not where a printed text
begins. -/
theorem runPlan_lines {environment : Environment} (hplain : wantsColours false environment = false)
    (gateway : Gateway) (c : Config) {a : RunArguments} (htext : a.json = false) (s : Session) :
    ∃ printed,
      (runPlan (Session.world environment gateway) (Session.network gateway) c a s).2.printed =
        s.printed ++ printed ∧
      (exposed gateway c a s).Sublist printed ∧
      ∀ passed, Console.taggedLines passed printed =
        (reports gateway c a s).countP (·.passed = passed) +
          Console.strayLines passed (exposed gateway c a s) := by
  obtain ⟨told, hcases, hprinted⟩ := runPlan_printed environment gateway c htext s
  rw [hplain] at hprinted
  refine ⟨_, hprinted, ?_, fun passed => ?_⟩
  · rw [exposed, ← hcases]
    exact ((caseLines_told told).trans (List.sublist_append_left _ _)).cons_cons _
  · have hrest := Console.taggedLines_append passed (told.map (noticeText false))
      [Console.summary false (Session.reportOf c (reports gateway c a s))]
    rw [Console.taggedLines_of_untagged passed (Console.untagged_summary _),
      taggedLines_told, hcases] at hrest
    have hall := Console.taggedLines_append passed ["Target: " ++ c.baseUrl]
      (told.map (noticeText false) ++
        [Console.summary false (Session.reportOf c (reports gateway c a s))])
    rw [taggedLines_target, hrest] at hall
    have hstray := Console.strayLines_append passed ["Target: " ++ c.baseUrl]
      ((reports gateway c a s).map (Console.caseLine false))
    rw [exposed]
    simp only [List.singleton_append] at hall hstray
    omega

theorem isTagged_caseLine (r : CaseReport) :
    Console.isTagged r.passed (Console.caseLine false r).toList := by
  rw [Console.isTagged, List.isPrefixOf_iff_prefix, Console.caseLine_plain]
  simp only [String.toList_append, List.append_assoc]
  exact List.prefix_append _ _

theorem countP_passed (reports : List CaseReport) :
    reports.countP (·.passed = true) = (Summary.ofCases reports).passed ∧
      reports.countP (·.passed = false) = (Summary.ofCases reports).failed := by
  rw [Summary.ofCases_eq]
  constructor <;> refine List.countP_congr fun r _ => ?_ <;> simp

/-! ### One case at a gateway that fails -/

/-- A gateway that is out of order. -/
def outOfOrder (body : String) : Gateway := fun _ => .ok ⟨500, body⟩

/-- A run of Gemini's listing alone. -/
def listingRun : RunArguments := { suites := [.models], protocols := [.gemini] }

theorem prepare_listing : ∃ d, prepare (listingCase "").request = .ok d := by
  have hsome : (delivery? (listingCase "")).isSome = true := by
    rw [delivery_listing (by decide)]
    decide +kernel
  unfold delivery? at hsome
  cases hp : prepare (listingCase "").request with
  | error failure =>
    rw [hp] at hsome
    cases hsome
  | ok d => exact ⟨d, rfl⟩

theorem call_outOfOrder {k : Case} {d : Delivery} (hd : prepare k.request = .ok d) (body : String)
    (seen : List Delivery) : (call (memory (outOfOrder body)) k seen).1 = ⟨500, body, 0⟩ := by
  unfold call Transport.send Transport.deliver
  rw [hd]
  rfl

theorem turns_singleton (network : Network (StateM (List Delivery))) (k : Case)
    (seen : List Delivery) : turns network [k] seen = [(k, (call network k seen).1)] := rfl

theorem reports_listingRun (body : String) :
    reports (outOfOrder body) {} listingRun { disk := {} } =
      [⟨(listingCase "").id, (Complaint.badStatus 500 body).verdict, 0⟩] := by
  obtain ⟨d, hd⟩ := prepare_listing
  have hcases : listingRun.choice.cases {} = [listingCase ""] := by
    have hchoice : listingRun.choice = listingPlan := rfl
    rw [hchoice]
    exact cases_listingPlan ""
  have hunanswered : unanswered 500 body = .badStatus 500 body := rfl
  rw [reports, judged, hcases, turns_singleton, call_outOfOrder hd, List.map_singleton, report]
  dsimp only
  rw [verdict_of_ne_200 (by decide), hunanswered]

theorem caseLine_listing (body : String) : Console.caseLine false
    ⟨(listingCase "").id, (Complaint.badStatus 500 body).verdict, 0⟩ =
      "[FAIL] Gemini Models        | HTTP 500: " ++ Text.truncate bodyPreview body := by
  have hhead : "[FAIL]" ++ " " ++ Text.padChars 20 "Gemini Models" ++ " | " ++ "HTTP 500: " =
      "[FAIL] Gemini Models        | HTTP 500: " := by decide
  rw [← hhead, String.append_assoc]
  rfl

theorem exposed_listingRun (body : String) :
    exposed (outOfOrder body) {} listingRun { disk := {} } =
      ["Target: http://localhost:11435",
        "[FAIL] Gemini Models        | HTTP 500: " ++ Text.truncate bodyPreview body] := by
  have htarget : "Target: " ++ ({} : Config).baseUrl = "Target: http://localhost:11435" := by decide
  rw [exposed, reports_listingRun, htarget, List.map_singleton, caseLine_listing]

/-! ### Every case on a line -/

/-- The line of a case begins with its outcome, and is one line if and only if the name of the group
and what is quoted are. So as many lines of a printout begin with an outcome as cases came out that
way, apart from those that an address, a name or a quotation makes where it goes on in another
line. -/
theorem outcomes_by_line {environment : Environment}
    (hplain : wantsColours false environment = false) (gateway : Gateway) (c : Config)
    {a : RunArguments} (htext : a.json = false) (s : Session) :
    (∀ t ∈ judged gateway c a s,
      let r := report t.1 t.2
      let line := Console.caseLine false r
      Console.isTagged r.passed line.toList ∧
      (OneLine line ↔ (t.1.id.OnGroup → OneLine c.models.groupName) ∧
        ∀ words, t.1.check.Quotes t.2.status t.2.body words →
          OneLine (Text.truncate bodyPreview words))) ∧
    ∃ printed,
      (runPlan (Session.world environment gateway) (Session.network gateway) c a s).2.printed =
        s.printed ++ printed ∧
      (exposed gateway c a s).Sublist printed ∧
      Console.taggedLines true printed = (Summary.ofCases (reports gateway c a s)).passed +
        Console.strayLines true (exposed gateway c a s) ∧
      Console.taggedLines false printed = (Summary.ofCases (reports gateway c a s)).failed +
        Console.strayLines false (exposed gateway c a s) ∧
      ((∀ text ∈ exposed gateway c a s, OneLine text) →
        ∀ passed, Console.strayLines passed (exposed gateway c a s) = 0) := by
  obtain ⟨hpassed, hfailed⟩ := countP_passed (reports gateway c a s)
  obtain ⟨printed, hprinted, hexposed, htagged⟩ := runPlan_lines hplain gateway c htext s
  refine ⟨fun t ht => ⟨isTagged_caseLine _, ?_⟩, printed, hprinted, hexposed, ?_, ?_, ?_⟩
  · have hcase : t.1 ∈ a.choice.cases c := (List.of_mem_zip ht).1
    rw [Console.oneLine_caseLine]
    exact and_congr (Plan.oneLine_label hcase) (oneLine_message_iff _ _ _)
  · rw [htagged, hpassed]
  · rw [htagged, hfailed]
  · exact fun h passed => Console.strayLines_of_oneLine passed h

/-- A plain answer makes one failed line and no other. -/
theorem outcomes_by_line_listing : wantsColours false [] = false ∧ listingRun.json = false ∧
    ∃ printed,
      (runPlan (Session.world [] (outOfOrder "down")) (Session.network (outOfOrder "down")) {}
        listingRun { disk := {} }).2.printed = printed ∧
      Console.taggedLines true printed = 0 ∧ Console.taggedLines false printed = 1 := by
  have hplain : wantsColours false [] = false := rfl
  have htext : listingRun.json = false := rfl
  obtain ⟨_, printed, hprinted, _, hpassed, hfailed, hnone⟩ :=
    outcomes_by_line hplain (outOfOrder "down") {} htext { disk := {} }
  have hlines : ∀ text ∈ exposed (outOfOrder "down") {} listingRun { disk := {} },
      OneLine text := by
    rw [exposed_listingRun]
    decide
  rw [hnone hlines, reports_listingRun] at hpassed hfailed
  exact ⟨hplain, htext, printed, hprinted, hpassed, hfailed⟩

/-- What a gateway may say that fails and would rather not. -/
def forgery : String := "down\n[PASS] Gemini Models        | HTTP 200, 3 models"

/-- An answer of two lines makes a case that failed look like one that passed. -/
theorem outcome_forged : ({} : Config).check = .ok () ∧ wantsColours false [] = false ∧
    let outcomes := reports (outOfOrder forgery) {} listingRun { disk := {} }
    let printed :=
      (runPlan (Session.world [] (outOfOrder forgery)) (Session.network (outOfOrder forgery)) {}
        listingRun { disk := {} }).2.printed
    (∃ r ∈ outcomes, ¬ OneLine (Console.caseLine false r)) ∧
      (Summary.ofCases outcomes).passed = 0 ∧ Console.taggedLines true printed = 1 := by
  have hplain : wantsColours false [] = false := rfl
  have htext : listingRun.json = false := rfl
  refine ⟨Config.check_default, hplain, ?_⟩
  intro outcomes printed
  have houtcomes : outcomes = _ := reports_listingRun forgery
  obtain ⟨printed', hprinted, _, htagged⟩ :=
    runPlan_lines hplain (outOfOrder forgery) {} htext { disk := {} }
  have hprinted : printed = printed' := hprinted
  refine ⟨⟨_, houtcomes ▸ List.mem_cons_self, ?_⟩, ?_, ?_⟩
  · rw [caseLine_listing]
    decide
  · rw [houtcomes]
    rfl
  · rw [hprinted, htagged, reports_listingRun, exposed_listingRun]
    decide

end CommandLine

end Conformance
