import Conformance.Sweep.Plan
import Conformance.Sweep.Report
import Conformance.Transport.Exchange

/-!
Running a plan: one call per case, strictly in order. A case that fails does not keep the ones
after it from being run.
-/

namespace Conformance.Sweep

open Transport (Network Exchange)

/-- Who is told about the progress of a run. -/
structure Observer (m : Type → Type) where
  suiteStarted : Suite → m Unit
  protocolStarted : Protocol → m Unit
  caseFinished : CaseReport → m Unit
  log : Log.Entry → m Unit

/-- The outcome of a case that ended in this exchange. -/
def report (c : Case) (e : Exchange) : CaseReport :=
  ⟨c.id, c.check.verdict e.status e.body, e.elapsed⟩

def entry (level : Log.Level) (fields : List (String × Json)) : Log.Entry :=
  ⟨level, Log.targetOf "matrix", fields⟩

def startEntry (config : Config) (plan : Plan) : Log.Entry :=
  entry .info [("message", .string "Starting conformance run"),
    ("gateway", .string config.baseUrl), ("suites", .ofNat plan.suites.length),
    ("protocols", .ofNat plan.protocols.length),
    ("timeout_secs", .ofNat config.target.timeoutSeconds)]

def suiteEntry (suite : Suite) (cases : Nat) : Log.Entry :=
  entry .debug [("message", .string "Suite finished"), ("suite", .string suite.name),
    ("cases", .ofNat cases)]

def finishEntry (s : Summary) : Log.Entry :=
  entry .info [("message", .string "Conformance run finished"), ("total", .ofNat s.total),
    ("passed", .ofNat s.passed), ("failed", .ofNat s.failed)]

/-- A failed case is logged with the beginning of the response. -/
def failureEntry (bodyChars : Nat) (r : CaseReport) (e : Exchange) : Log.Entry :=
  entry .debug [("message", .string r.verdict.message), ("label", .string r.id.label),
    ("protocol", .string r.id.protocol.displayName), ("status", .ofInt e.status),
    ("body", .string (Text.snippet bodyChars e.body))]

/-- The outcome of a case whose request was never sent. -/
def unsent (c : Case) (why : String) : CaseReport :=
  ⟨c.id, unencoded why, 0⟩

def unsentEntry (c : Case) (why : String) : Log.Entry :=
  entry .error [("message", .string "Failed to encode request"), ("label", .string c.id.label),
    ("error", .string why)]

variable {m : Type → Type} [Monad m]

/-- Sends the request of a case and judges the answer. -/
def callCase (network : Network m) (observer : Observer m) (bodyChars : Nat) (c : Case) :
    m CaseReport := do
  let exchange ← Transport.send network observer.log c.request
  let r := report c exchange
  if r.passed then pure () else observer.log (failureEntry bodyChars r exchange)
  observer.caseFinished r
  pure r

/-- A case whose request could not be written out is reported all the same. -/
def runCase (network : Network m) (observer : Observer m) (bodyChars : Nat) (c : Case) :
    m CaseReport :=
  match c.unwritten? with
  | none => callCase network observer bodyChars c
  | some why => do
    observer.log (unsentEntry c why)
    observer.caseFinished (unsent c why)
    pure (unsent c why)

/-- Takes the steps in order and collects the outcomes of their cases. -/
def runSteps (network : Network m) (observer : Observer m) (bodyChars : Nat) :
    List Step → m (List CaseReport)
  | [] => pure []
  | .suiteStarted suite :: rest => do
    observer.suiteStarted suite
    runSteps network observer bodyChars rest
  | .protocolStarted p :: rest => do
    observer.protocolStarted p
    runSteps network observer bodyChars rest
  | .case c :: rest => do
    let r ← runCase network observer bodyChars c
    let more ← runSteps network observer bodyChars rest
    pure (r :: more)
  | .suiteFinished suite cases :: rest => do
    observer.log (suiteEntry suite cases)
    runSteps network observer bodyChars rest

/-- The outcomes of all cases of a plan. -/
def run (network : Network m) (observer : Observer m) (config : Config) (plan : Plan) :
    m (List CaseReport) := do
  observer.log (startEntry config plan)
  let cases ← runSteps network observer config.logging.failureBodyChars (plan.steps config)
  observer.log (finishEntry (.ofCases cases))
  pure cases

end Conformance.Sweep
