import Conformance.Console.Style
import Conformance.Console.Table
import Conformance.Json.Writer
import Conformance.Sweep.Plan
import Conformance.Sweep.Report

/-!
What is printed about a run: headings and a line for each case while it goes on, then a summary;
and what is printed about a plan.
-/

namespace Conformance.Console

/-- A line across the page. -/
def heavyRule : String := String.ofList (List.replicate 60 '=')

/-- A heading between two lines, after an empty one. -/
def suiteHeading (colours : Bool) (title : String) : String :=
  let rule := paint colours .blue heavyRule
  "\n" ++ rule ++ "\n" ++ paint colours .blue ("  " ++ title) ++ "\n" ++ rule

def protocolHeading (colours : Bool) (p : Protocol) : String :=
  "\n" ++ paint colours .yellow ("--- Testing Protocol: " ++ p.displayName ++ " ---")

/-- The outcome, the label and the message of a case. -/
def caseLine (colours : Bool) (r : CaseReport) : String :=
  let tag := if r.passed then paint colours .green "[PASS]" else paint colours .red "[FAIL]"
  tag ++ " " ++ Text.padChars 20 r.id.label ++ " | " ++ r.verdict.message

/-- The row of a suite: cases, passed and failed ones. -/
def suiteRow (colours : Bool) (suite : Suite) (cases : List CaseReport) : List String :=
  let failed := cases.countP (!·.passed)
  let colour := if failed = 0 then Colour.green else .red
  [suite.title, toString cases.length, toString (cases.length - failed),
    paint colours colour (toString failed)]

/-- A row for each suite that has cases, and a last one for all of them. -/
def summaryTable (colours : Bool) (r : Report) : Table where
  header := ["Suite", "Total", "Passed", "Failed"]
  rows :=
    (Suite.all.filterMap fun suite =>
      let cases := r.cases.filter (·.id.suite = suite)
      if cases.isEmpty then none else some (suiteRow colours suite cases))
    ++ [["Total", toString r.summary.total, toString r.summary.passed, toString r.summary.failed]]

/-- The failures by kind, where there are any. -/
def faultLine (s : Summary) : String :=
  if s.faults.isEmpty then ""
  else "\nFailures by kind: " ++ String.intercalate ", "
    (s.faults.map fun (f, n) => f.label ++ ": " ++ toString n)

def summary (colours : Bool) (r : Report) : String :=
  let rule := paint colours .blue heavyRule
  "\n" ++ rule ++ "\n  Testing Completed.\n" ++ rule ++ "\n" ++ (summaryTable colours r).text
    ++ faultLine r.summary

def reportJson (r : Report) : String := r.toJson.pretty

def planTable (cases : List PlannedCase) : Table where
  header := ["Protocol", "Route", "Model", "Scenario", "Expects", "URL"]
  rows := cases.map fun p =>
    [p.chat.protocol.displayName, p.chat.route.label, p.chat.model, p.chat.scenario.label,
      p.expects.name, p.url]

def planJson (cases : List PlannedCase) : String :=
  (Json.canonical (.object [("cases", .array (cases.map PlannedCase.toJson))])).pretty

end Conformance.Console
