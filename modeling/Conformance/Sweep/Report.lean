import Conformance.Sweep.Case

/-!
The report of a run, and how its cases are counted.
-/

namespace Conformance

structure Summary where
  total : Nat := 0
  passed : Nat := 0
  failed : Nat := 0
  /-- The kinds of failure that occurred, in their order, with how often each did. -/
  faults : List (Fault × Nat) := []
deriving DecidableEq, Repr

namespace Summary

/-- One more failure of this kind. -/
def increment (f : Fault) : List (Fault × Nat) → List (Fault × Nat)
  | [] => [(f, 1)]
  | (g, n) :: rest =>
    if f = g then (g, n + 1) :: rest
    else if f.rank < g.rank then (f, 1) :: (g, n) :: rest
    else (g, n) :: increment f rest

/-- Takes one more case into account. -/
def record (s : Summary) (c : CaseReport) : Summary :=
  if c.passed then { s with total := s.total + 1, passed := s.passed + 1 }
  else
    { s with
      total := s.total + 1
      failed := s.failed + 1
      faults := match c.verdict.fault with
        | some f => increment f s.faults
        | none => s.faults }

def ofCases (cases : List CaseReport) : Summary :=
  cases.foldl record {}

def toJson (s : Summary) : Json :=
  .object [("total", .ofNat s.total), ("passed", .ofNat s.passed), ("failed", .ofNat s.failed),
    ("faults", .object (s.faults.map fun (f, n) => (f.name, .ofNat n)))]

end Summary

/-- Everything a run yields. Identity and times come from outside. -/
structure Report where
  runId : String
  target : String
  startedAt : String
  finishedAt : String
  cases : List CaseReport
deriving Repr

namespace Report

def summary (r : Report) : Summary := .ofCases r.cases

def hasFailures (r : Report) : Bool := r.summary.failed ≠ 0

def toJson (r : Report) : Json :=
  .object [("run_id", .string r.runId), ("target", .string r.target),
    ("started_at", .string r.startedAt), ("finished_at", .string r.finishedAt),
    ("summary", r.summary.toJson), ("cases", .array (r.cases.map CaseReport.toJson))]

end Report

end Conformance
