import Conformance.Console.Report
import Conformance.Proofs.Sweep.Counts
import Conformance.Proofs.Sweep.Judgement
import Conformance.Proofs.Sweep.Selection

/-! The table of a report and its summary count the same cases: the one suite by suite, the other
all at once. -/
namespace Conformance

open Reply (Settled)
open Transport (Network)

/-! ### The failures of a run -/

namespace Sweep

variable {σ : Type} {n : Nat} {r : CaseReport}

theorem runCase_settled (network : Network (StateM σ)) (observer : Observer (StateM σ)) {c : Case}
    (hc : c.unwritten? = none) (s : σ) : Settled (runCase network observer n c s).1.verdict := by
  rw [runCase_report network observer hc]
  exact verdict_settled c.check

theorem runSteps_settled (network : Network (StateM σ)) (observer : Observer (StateM σ))
    (steps : List Step) (h : ∀ c ∈ Plan.casesIn steps, c.unwritten? = none) (s : σ) (hr : r ∈ (runSteps network observer n steps s).1) :
    Settled r.verdict := by
  induction steps generalizing s with
  | nil => cases hr
  | cons step rest ih =>
    cases step with
    | suiteStarted suite => exact ih h _ hr
    | protocolStarted p => exact ih h _ hr
    | case c =>
      obtain ⟨hc, hrest⟩ := List.forall_mem_cons.mp h
      obtain rfl | hr := List.mem_cons.mp hr
      · exact runCase_settled network observer hc s
      · exact ih hrest _ hr
    | suiteFinished suite cases => exact ih h _ hr

/-- Whatever the gateway does, the cases that fail have a kind of failure each. -/
theorem faultTotal_run (network : Network (StateM σ)) (observer : Observer (StateM σ))
    (config : Config) (plan : Plan) (s : σ) :
    let done := Summary.ofCases (run network observer config plan s).1
    done.faultTotal = done.failed := by
  intro done
  rw [Summary.faultTotal_ofCases, (Summary.accounts_ofCases _).failed]
  refine List.countP_congr fun r hr => ?_
  have hr : Settled r.verdict := runSteps_settled network observer (plan.steps config)
    Plan.steps_written _ hr
  have hf := Reply.passed_iff_fault_eq_none hr
  have hsome : r.verdict.passed = false → r.verdict.fault.isSome := fun hp =>
    Option.isSome_iff_ne_none.mpr fun hn => Bool.false_ne_true (hp ▸ hf.mpr hn)
  simpa [CaseReport.passed] using hsome

end Sweep

/-! ### The table -/

namespace Console

variable {cases : List CaseReport}

/-- The counts of a suite. -/
structure Tally where
  suite : Suite
  total : Nat
  passed : Nat
  failed : Nat

namespace Tally

def ofCases (cases : List CaseReport) (suite : Suite) : Tally where
  suite := suite
  total := cases.countP fun c => c.id.suite = suite
  passed := cases.countP fun c => c.passed && c.id.suite = suite
  failed := cases.countP fun c => !c.passed && c.id.suite = suite

/-- The cells in which a tally is told. -/
def row (colours : Bool) (t : Tally) : List String :=
  [t.suite.title, toString t.total, toString t.passed,
    paint colours (if t.failed = 0 then .green else .red) (toString t.failed)]

/-- A row for each suite that has cases. -/
def rows (cases : List CaseReport) : List Tally :=
  (Suite.all.filter fun suite => cases.any (·.id.suite = suite)).map (ofCases cases)

end Tally

/-- Tallies that agree with the cases, and with a summary of all of them. -/
structure Balanced (cases : List CaseReport) (s : Summary) (tallies : List Tally) : Prop where
  suites : tallies.map (·.suite) =
    Suite.all.filter fun suite => cases.any (·.id.suite = suite)
  total : ∀ t ∈ tallies, t.total = cases.countP (·.id.suite = t.suite)
  failed : ∀ t ∈ tallies, t.failed = cases.countP fun c => !c.passed && c.id.suite = t.suite
  notNegative : ∀ t ∈ tallies, t.failed ≤ t.total
  passed : ∀ t ∈ tallies, t.passed = t.total - t.failed
  totals : (tallies.map (·.total)).sum = s.total
  passes : (tallies.map (·.passed)).sum = s.passed
  failures : (tallies.map (·.failed)).sum = s.failed

theorem Tally.passed_add_failed (cases : List CaseReport) (suite : Suite) :
    (ofCases cases suite).passed + (ofCases cases suite).failed = (ofCases cases suite).total := by
  simp only [ofCases]
  rw [List.countP_eq_countP_filter_add cases (fun c => c.id.suite = suite) (·.passed),
    List.countP_filter, List.countP_filter]
  simp only [Bool.and_comm]

/-- The row of a suite is that of its tally. -/
theorem suiteRow_eq (colours : Bool) (suite : Suite) (cases : List CaseReport) :
    suiteRow colours suite (cases.filter (·.id.suite = suite)) =
      (Tally.ofCases cases suite).row colours := by
  have hsum := Tally.passed_add_failed cases suite
  have htotal : (cases.filter (·.id.suite = suite)).length = (Tally.ofCases cases suite).total :=
    List.countP_eq_length_filter.symm
  have hfailed : (cases.filter (·.id.suite = suite)).countP (!·.passed) =
      (Tally.ofCases cases suite).failed :=
    List.countP_filter
  have hpassed : (Tally.ofCases cases suite).total - (Tally.ofCases cases suite).failed =
      (Tally.ofCases cases suite).passed := by
    omega
  rw [suiteRow, htotal, hfailed, hpassed]
  rfl

theorem rows_summaryTable (colours : Bool) (r : Report) : (summaryTable colours r).rows =
    (Tally.rows r.cases).map (·.row colours) ++
      [["Total", toString r.summary.total, toString r.summary.passed,
        toString r.summary.failed]] := by
  have hrows : (Suite.all.filterMap fun suite =>
      if (r.cases.filter (·.id.suite = suite)).isEmpty then none
      else some (suiteRow colours suite (r.cases.filter (·.id.suite = suite)))) =
      (Tally.rows r.cases).map (·.row colours) := by
    rw [Tally.rows, List.map_map, ← List.filterMap_eq_map, List.filterMap_filter]
    refine List.filterMap_congr fun suite _ => ?_
    rw [suiteRow_eq]
    by_cases hs : ∃ c ∈ r.cases, c.id.suite = suite
    · simp [hs]
    · simp [hs]
  rw [summaryTable, hrows]

/-- Suites without cases add nothing. -/
theorem sum_rows (p : CaseReport → Bool) (cases : List CaseReport) :
    ((Suite.all.filter fun suite => cases.any (·.id.suite = suite)).map fun suite =>
      cases.countP fun c => p c && c.id.suite = suite).sum = cases.countP p := by
  have hnone : ∀ suite ∈ Suite.all, cases.any (·.id.suite = suite) = false →
      (cases.countP fun c => p c && c.id.suite = suite) = 0 := by
    intro suite _ hs
    refine List.countP_eq_zero.mpr fun c hc hp => ?_
    have hno := List.any_eq_false.mp hs c hc
    exact hno (Bool.and_eq_true_iff.mp hp).2
  have hsuites : Suite.all.Nodup := by decide
  have hall : ∀ suite : Suite, suite ∈ Suite.all := fun suite => by cases suite <;> decide
  have hsum := sum_countP_keys p (fun c : CaseReport => some c.id.suite) cases hsuites
  rw [sum_map_filter hnone]
  simpa [hall] using hsum

theorem balanced_rows (r : Report) : Balanced r.cases r.summary (Tally.rows r.cases) := by
  have hs := Summary.accounts_ofCases r.cases
  have hrows : ∀ t ∈ Tally.rows r.cases, t = Tally.ofCases r.cases t.suite := by
    intro t ht
    obtain ⟨suite, _, rfl⟩ := List.mem_map.mp ht
    rfl
  have hsum : ∀ t ∈ Tally.rows r.cases, t.passed + t.failed = t.total := fun t ht =>
    hrows t ht ▸ Tally.passed_add_failed r.cases t.suite
  exact {
    suites := by simp [Tally.rows, Tally.ofCases, Function.comp_def]
    total := fun t ht => congrArg Tally.total (hrows t ht)
    failed := fun t ht => congrArg Tally.failed (hrows t ht)
    notNegative := fun t ht => by
      have := hsum t ht
      omega
    passed := fun t ht => by
      have := hsum t ht
      omega
    totals := by
      rw [Report.summary, hs.total, Tally.rows, List.map_map]
      have hall := sum_rows (fun _ => true) r.cases
      simpa [Function.comp_def, Tally.ofCases] using hall
    passes := by
      rw [Report.summary, hs.passed, Tally.rows, List.map_map]
      exact sum_rows (·.passed) r.cases
    failures := by
      rw [Report.summary, hs.failed, Tally.rows, List.map_map]
      exact sum_rows (!·.passed) r.cases }

/-- The counts of a report are those of its cases, in whatever order and from however many parts
they come. In a run, every failure is counted by its kind as well. In the table, the rows of the
suites that have cases add up to the last one. -/
theorem summary_accounts :
    (∀ cases : List CaseReport, Summary.Accounts cases (.ofCases cases) ∧
      (∀ others, cases.Perm others → Summary.ofCases others = .ofCases cases) ∧
      ∀ more, Summary.ofCases (cases ++ more) = (Summary.ofCases cases).add (.ofCases more)) ∧
    (∀ {σ : Type} (network : Network (StateM σ)) (observer : Sweep.Observer (StateM σ))
      (config : Config) (plan : Plan) (s : σ),
      let done := Summary.ofCases (Sweep.run network observer config plan s).1
      done.faultTotal = done.failed) ∧
    ∀ (colours : Bool) (r : Report), ∃ tallies : List Tally,
      (summaryTable colours r).rows = tallies.map (·.row colours) ++
        [["Total", toString r.summary.total, toString r.summary.passed,
          toString r.summary.failed]] ∧
      Balanced r.cases r.summary tallies :=
  ⟨fun cases => ⟨Summary.accounts_ofCases cases, fun _ h => (Summary.ofCases_perm h).symm,
      Summary.ofCases_append cases⟩,
    Sweep.faultTotal_run,
    fun colours r => ⟨_, rows_summaryTable colours r, balanced_rows r⟩⟩

end Console

end Conformance
