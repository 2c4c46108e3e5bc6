import Conformance.Proofs.Config.Accepted
import Conformance.Proofs.Sweep.Selection

/-! What a case is called in a report, and when that tells it from all others. Probes have names of
their own; a chat is named after its route, which a group can share with another one. -/
namespace Conformance

/-- What the line of a case, below the headings of its suite and protocol, calls it by. -/
def CaseId.key (id : CaseId) : Suite × Protocol × String := (id.suite, id.protocol, id.label)

/-- What tells chats apart by protocol, scenario and the name of the route. -/
def CaseId.routeKey (id : CaseId) : Protocol × Option Scenario × Option String :=
  (id.protocol, id.scenario, id.route.map Route.label)

/-! ### Routes -/

namespace Route

/-- A name that is not empty and holds no slash. -/
def IsSegment (name : String) : Prop := name ≠ "" ∧ '/' ∉ name.toList

variable {name : String} {r r' : Route}

theorem toList_label_group (name : String) : (group name).label.toList = '/' :: name.toList := by
  simp [label, path, String.toList_append]

theorem toList_label_groupCompat (name : String) :
    (groupCompat name).label.toList = '/' :: (name.toList ++ "/compat".toList) := by
  simp [label, path, String.toList_append]

/-- The name of a group keeps its routes apart from each other and from the default one. -/
theorem label_group_ne (h : IsSegment name) : default.label ≠ (group name).label ∧
    default.label ≠ (groupCompat name).label ∧
      (group name).label ≠ (groupCompat name).label := by
  refine ⟨fun he => h.1 ?_, fun he => ?_, fun he => ?_⟩
  all_goals
    have hl := congrArg String.toList he
    simp only [toList_label_group, toList_label_groupCompat] at hl
  · exact String.toList_eq_nil_iff.mp (List.cons.inj hl).2.symm
  · exact absurd (List.cons.inj hl).2.symm (by simp)
  · exact absurd (List.cons.inj hl).2 (by simp)

/-- Only the group of that name has the routes of the switch. -/
theorem label_switch_ne (h : IsSegment name) (hn : name ≠ "switch") :
    switch.label ≠ (group name).label ∧ switch.label ≠ (groupCompat name).label ∧
      switchCompat.label ≠ (group name).label ∧
        switchCompat.label ≠ (groupCompat name).label := by
  refine ⟨fun he => hn ?_, fun he => ?_, fun he => h.2 ?_, fun he => hn ?_⟩
  all_goals
    have hl := congrArg String.toList he
    simp only [toList_label_group, toList_label_groupCompat] at hl
  · exact String.toList_inj.mp (List.cons.inj hl).2.symm
  · -- the switch leaves no room for a name before what marks the second route of a group
    have hlen := congrArg List.length hl
    simp only [List.length_cons, List.length_append] at hlen
    have h7 : switch.label.toList.length = 7 := by decide
    have h8 : "/compat".toList.length = 7 := by decide
    omega
  · rw [← (List.cons.inj hl).2]
    decide
  · have hs : "switch".toList ++ "/compat".toList = name.toList ++ "/compat".toList :=
      (List.cons.inj hl).2
    exact String.toList_inj.mp (List.append_cancel_right hs).symm

/-- All routes have names of their own, unless the group is named like the switch. -/
theorem labels_nodup (h : IsSegment name) (hn : name ≠ "switch") :
    ((all name).map label).Nodup := by
  obtain ⟨hd, hdc, hg⟩ := label_group_ne h
  obtain ⟨hs, hsc, hcs, hcc⟩ := label_switch_ne h hn
  have hfixed : default.label ≠ switch.label ∧ default.label ≠ switchCompat.label ∧
      switch.label ≠ switchCompat.label := by decide
  simp [all, hd, hdc, hg, hs, hsc, hcs, hcc, hfixed]

end Route

/-- A chat is named after its scenario and its route. -/
theorem ChatCase.of_label_eq {k k' : ChatCase} (h : k.label = k'.label) :
    k.scenario = k'.scenario ∧ k.route.label = k'.route.label := by
  have hl := congrArg String.toList h
  simp only [ChatCase.label, String.toList_append, List.append_assoc] at hl
  have hlength : k.scenario.label.toList.length = k'.scenario.label.toList.length := by
    cases k.scenario <;> cases k'.scenario <;> decide
  obtain ⟨hscenario, hroute⟩ := List.append_inj hl hlength
  have hinj : ∀ s s' : Scenario, s.label.toList = s'.label.toList → s = s' := by
    rintro (_ | _) (_ | _) <;> decide
  exact ⟨hinj _ _ hscenario, String.toList_inj.mp (List.append_cancel_left hroute)⟩

namespace Plan

variable {config : Config} {suites : List Suite} {protocols : List Protocol} {c c' : Case}

theorem mem_casesOf_chat : c ∈ everything.casesOf config .chat ↔
    ∃ p, ∃ route ∈ Route.all config.models.groupName, ∃ scenario,
      c = config.chatCase ⟨p, route, config.modelOn route, scenario⟩ := by
  constructor
  · intro h
    obtain ⟨p, _, hc⟩ := List.mem_flatMap.mp h
    rw [chats_eq] at hc
    obtain ⟨k, hk, rfl⟩ := List.mem_map.mp hc
    obtain ⟨⟨route, model⟩, hr, hk⟩ := List.mem_flatMap.mp hk
    obtain ⟨_, hroute, hr⟩ := List.mem_map.mp hr
    cases hr
    obtain ⟨scenario, _, rfl⟩ := List.mem_map.mp hk
    exact ⟨p, route, hroute, scenario, rfl⟩
  · rintro ⟨p, route, hroute, scenario, rfl⟩
    have hs : scenario ∈ Scenario.all := by cases scenario <;> decide
    refine List.mem_flatMap.mpr ⟨p, Protocol.mem_all p, ?_⟩
    rw [chats_eq]
    refine List.mem_map_of_mem (List.mem_flatMap.mpr ⟨(route, config.modelOn route), ?_, ?_⟩)
    · exact List.mem_map_of_mem hroute
    · exact List.mem_map_of_mem hs

theorem mem_cases_ofChoice : c ∈ (ofChoice suites protocols).cases config ↔
    c ∈ everything.cases config ∧ c.id.Chosen suites protocols := by
  rw [cases_ofChoice, List.mem_filter, decide_eq_true_eq]

theorem mem_cases_chat (h : c ∈ everything.cases config) (hs : c.id.suite = .chat) :
    c ∈ everything.casesOf config .chat := by
  obtain ⟨suite, _, hc⟩ := List.mem_flatMap.mp h
  rwa [← hs, suite_of_mem_casesOf hc]

theorem ids_nodup_ofChoice : (((ofChoice suites protocols).cases config).map Case.id).Nodup := by
  rw [cases_ofChoice]
  exact (List.filter_sublist.map Case.id).nodup (cases_nodup config)

/-- Chats of one protocol and scenario whose routes are named alike are the same. -/
theorem eq_of_routeKey (hs : Route.IsSegment config.models.groupName)
    (hn : config.models.groupName ≠ "switch") (hc : c ∈ everything.casesOf config .chat)
    (hc' : c' ∈ everything.casesOf config .chat) (hk : c.id.routeKey = c'.id.routeKey) :
    c = c' := by
  obtain ⟨p, route, hr, scenario, rfl⟩ := mem_casesOf_chat.mp hc
  obtain ⟨p', route', hr', scenario', rfl⟩ := mem_casesOf_chat.mp hc'
  simp only [CaseId.routeKey, Config.chatCase, Option.map_some, Prod.mk.injEq,
    Option.some.injEq] at hk
  obtain ⟨rfl, rfl, hlabel⟩ := hk
  rw [List.inj_on_of_nodup_map (Route.labels_nodup hs hn) hr hr' hlabel]

theorem eq_of_key (hs : Route.IsSegment config.models.groupName)
    (hn : c.id.suite = .chat → config.models.groupName ≠ "switch")
    (hc : c ∈ everything.cases config) (hc' : c' ∈ everything.cases config)
    (hk : c.id.key = c'.id.key) : c = c' := by
  simp only [CaseId.key, Prod.mk.injEq] at hk
  obtain ⟨hsuite, hprotocol, hlabel⟩ := hk
  by_cases hchat : c.id.suite = .chat
  · have hm := mem_cases_chat hc hchat
    have hm' := mem_cases_chat hc' (hsuite ▸ hchat)
    refine eq_of_routeKey hs (hn hchat) hm hm' ?_
    obtain ⟨p, route, _, scenario, rfl⟩ := mem_casesOf_chat.mp hm
    obtain ⟨p', route', _, scenario', rfl⟩ := mem_casesOf_chat.mp hm'
    obtain ⟨hscenario, hroute⟩ := ChatCase.of_label_eq hlabel
    simp only [CaseId.routeKey, Config.chatCase, Option.map_some] at *
    rw [hprotocol, hscenario, hroute]
  · obtain ⟨suite, _, hm⟩ := List.mem_flatMap.mp hc
    obtain ⟨suite', _, hm'⟩ := List.mem_flatMap.mp hc'
    rw [suite_of_mem_casesOf hm] at hchat
    rw [suite_of_mem_casesOf hm, suite_of_mem_casesOf hm'] at hsuite
    subst hsuite
    exact List.inj_on_of_nodup_map (probeLabels_nodup hchat) hm hm' hlabel

/-- A group that is named like the switch shares its routes, and its chats are named alike. -/
theorem switch_chats_alike (hn : config.models.groupName = "switch") (p : Protocol) :
    ∃ c ∈ everything.cases config, ∃ c' ∈ everything.cases config,
      (c.id.suite = .chat ∧ c.id.protocol = p) ∧ (c'.id.suite = .chat ∧ c'.id.protocol = p) ∧
        c.id ≠ c'.id ∧ c.id.key = c'.id.key ∧ c.id.routeKey = c'.id.routeKey := by
  let chat (route : Route) : Case := config.chatCase ⟨p, route, config.modelOn route, .text⟩
  have hm : ∀ route ∈ Route.all config.models.groupName, chat route ∈ everything.cases config := by
    intro route hr
    have hm := mem_casesOf_chat.mpr ⟨p, route, hr, .text, rfl⟩
    exact List.mem_flatMap.mpr ⟨.chat, by decide, hm⟩
  rw [hn] at hm
  refine ⟨chat .switch, hm _ (by decide), chat (.group "switch"), hm _ (by decide), ⟨rfl, rfl⟩,
    ⟨rfl, rfl⟩, fun he => ?_, ?_, ?_⟩
  · exact absurd (congrArg CaseId.route he) (by simp [chat, Config.chatCase])
  · rfl
  · rfl

/-- Chats are run, and a group has the routes of the switch. -/
def Clashes (config : Config) (suites : List Suite) : Prop :=
  config.models.groupName = "switch" ∧ (suites = [] ∨ .chat ∈ suites)

/-- What would tell all chosen cases apart does so just if no routes are shared. -/
theorem nodup_iff {α : Type} {f : CaseId → α} {cs : List Case}
    (hc : cs.Sublist ((ofChoice suites protocols).cases config))
    (hinj : ¬Clashes config suites → ∀ c ∈ cs, ∀ c' ∈ cs, f c.id = f c'.id → c = c')
    (hchats : ∀ c ∈ (ofChoice suites protocols).cases config, c.id.suite = .chat → c ∈ cs)
    (hf : ∀ id id' : CaseId, id.suite = .chat → id'.suite = .chat → id.key = id'.key →
      id.routeKey = id'.routeKey → f id = f id') :
    ((cs.map Case.id).map f).Nodup ↔ ¬Clashes config suites := by
  constructor
  · rintro hnodup ⟨hn, hsuite⟩
    obtain ⟨p, hp⟩ : ∃ p, protocols = [] ∨ p ∈ protocols := by
      cases protocols with
      | nil => exact ⟨.openAI, Or.inl rfl⟩
      | cons p ps => exact ⟨p, Or.inr List.mem_cons_self⟩
    obtain ⟨c, hc, c', hc', ⟨hs, rfl⟩, ⟨hs', hp'⟩, hne, hkey, hroute⟩ := switch_chats_alike hn p
    have hm := hchats c (mem_cases_ofChoice.mpr ⟨hc, hs ▸ hsuite, hp⟩) hs
    have hm' := hchats c' (mem_cases_ofChoice.mpr ⟨hc', hs' ▸ hsuite, hp' ▸ hp⟩) hs'
    exact hne (List.inj_on_of_nodup_map hnodup (List.mem_map_of_mem hm) (List.mem_map_of_mem hm')
      (hf _ _ hs hs' hkey hroute))
  · intro hn
    refine List.Nodup.map_on ?_ ((hc.map Case.id).nodup ids_nodup_ofChoice)
    intro id hid id' hid' he
    obtain ⟨c, hc, rfl⟩ := List.mem_map.mp hid
    obtain ⟨c', hc', rfl⟩ := List.mem_map.mp hid'
    rw [hinj hn c hc c' hc' he]

theorem not_clashes_chat (hn : ¬Clashes config suites)
    (hc : c ∈ (ofChoice suites protocols).cases config) (hs : c.id.suite = .chat) :
    config.models.groupName ≠ "switch" := by
  intro hname
  obtain ⟨hsuite, _⟩ := (mem_cases_ofChoice.mp hc).2
  exact hn ⟨hname, hs ▸ hsuite⟩

theorem keys_nodup_iff (hs : Route.IsSegment config.models.groupName) :
    ((((ofChoice suites protocols).cases config).map Case.id).map CaseId.key).Nodup ↔
      ¬Clashes config suites := by
  refine nodup_iff (List.Sublist.refl _) (fun hn c hc c' hc' hk => ?_) (fun c hc _ => hc)
    fun _ _ _ _ hk _ => hk
  exact eq_of_key hs (not_clashes_chat hn hc) (mem_cases_ofChoice.mp hc).1
    (mem_cases_ofChoice.mp hc').1 hk

theorem routeKeys_nodup_iff (hs : Route.IsSegment config.models.groupName) :
    (((((ofChoice suites protocols).cases config).map Case.id).filter (·.suite = .chat)).map
      CaseId.routeKey).Nodup ↔ ¬Clashes config suites := by
  rw [List.filter_map]
  refine nodup_iff List.filter_sublist (fun hn c hc c' hc' hk => ?_)
    (fun c hc hs => List.mem_filter.mpr ⟨hc, decide_eq_true hs⟩) fun _ _ _ _ _ hk => hk
  obtain ⟨hc, hchat⟩ := List.mem_filter.mp hc
  obtain ⟨hc', hchat'⟩ := List.mem_filter.mp hc'
  have hchat := of_decide_eq_true hchat
  exact eq_of_routeKey hs (not_clashes_chat hn hc hchat)
    (mem_cases_chat (mem_cases_ofChoice.mp hc).1 hchat)
    (mem_cases_chat (mem_cases_ofChoice.mp hc').1 (of_decide_eq_true hchat')) hk

end Plan

theorem Config.isSegment_of_check {config : Config} (h : config.check = .ok ()) :
    Route.IsSegment config.models.groupName := by
  obtain ⟨_, _, _, hfields, hslash, _⟩ := check_eq_ok.mp h
  refine ⟨fun he => ?_, hslash⟩
  have hb := hfields ("models.group_name", config.models.groupName)
    (by simp [Aliases.fields])
  rw [he] at hb
  exact absurd hb (by decide)

namespace Sweep

open Transport

/-- Suite, protocol and label tell the cases of any report apart, and the name of the route tells
the chats of a protocol and scenario apart, unless chats are run and the group is named like the
switch. -/
theorem cases_told_apart_iff {config : Config} (h : config.check = .ok ()) (suites : List Suite)
    (protocols : List Protocol) {σ : Type} (network : Network (StateM σ))
    (observer : Observer (StateM σ)) (s : σ) :
    let ids := (run network observer config (.ofChoice suites protocols) s).1.map CaseReport.id
    ((ids.map CaseId.key).Nodup ↔ ¬Plan.Clashes config suites) ∧
      (((ids.filter (·.suite = .chat)).map CaseId.routeKey).Nodup ↔
        ¬Plan.Clashes config suites) := by
  intro ids
  have hids : ids = ((Plan.ofChoice suites protocols).cases config).map Case.id :=
    run_ids network observer config (.ofChoice suites protocols) s
  have hs := Config.isSegment_of_check h
  rw [hids]
  exact ⟨Plan.keys_nodup_iff hs, Plan.routeKeys_nodup_iff hs⟩

/-- A gateway that refuses every connection. -/
def refusing : Network (StateM Unit) := stateless (fun _ => .error (.connection "refused")) (pure 0)

/-- The whole sweep as it is set by default. -/
theorem cases_told_apart_default : ({} : Config).check = .ok () ∧
    (((run refusing unmoved {} .everything ()).1.map CaseReport.id).map CaseId.key).Nodup := by
  have hn : ¬Plan.Clashes {} [] := fun h => absurd h.1 (by decide)
  exact ⟨Config.check_default,
    (cases_told_apart_iff Config.check_default [] [] refusing unmoved ()).1.mpr hn⟩

/-- A group that is named like the switch. -/
def switchGroup : Config := { models := { groupName := "switch" } }

/-- It may be used, and the report then has different cases of the same suite, protocol and label,
and chats of one protocol and scenario whose routes have one name. -/
theorem switchGroup_ambiguous : switchGroup.check = .ok () ∧
    let ids := (run refusing unmoved switchGroup .everything ()).1.map CaseReport.id
    ¬(ids.map CaseId.key).Nodup ∧
      ¬((ids.filter (·.suite = .chat)).map CaseId.routeKey).Nodup := by
  have hc : switchGroup.check = .ok () := by
    refine Config.check_eq_ok.mpr
      ⟨by decide, by decide, by decide, by decide, by decide, ?_, by decide⟩
    exact ⟨Config.localGateway, Config.read_localGateway, Or.inl rfl⟩
  have hs : Route.IsSegment switchGroup.models.groupName := Config.isSegment_of_check hc
  have hclash : Plan.Clashes switchGroup [] := ⟨rfl, Or.inl rfl⟩
  refine ⟨hc, ?_⟩
  rw [run_ids refusing unmoved switchGroup .everything ()]
  exact ⟨fun h => (Plan.keys_nodup_iff hs).mp h hclash,
    fun h => (Plan.routeKeys_nodup_iff hs).mp h hclash⟩

end Sweep

end Conformance
