import Conformance.CommandLine.Completion
import Conformance.CommandLine.Help
import Conformance.Config.Example
import Conformance.Config.File
import Conformance.Console.Report
import Conformance.Log.Filter
import Conformance.Sweep.Run

/-!
What the program does with its arguments: it exits with 0 if all went well, with 1 if a case failed,
and with 2 if it could not do what it was asked for.
-/

namespace Conformance.CommandLine

/-- What the program can reach. -/
structure World (m : Type → Type) where
  files : Files m
  /-- Sets the log up, or says why it cannot be. -/
  startLog : m (Except String Unit)
  /-- A client that gives each call so many seconds, or why there is none. -/
  network : Nat → m (Except String (Transport.Network m))
  environment : Environment
  /-- Whether someone reads the standard output on a terminal. -/
  isTerminal : Bool
  /-- Writes to the standard output and ends the line. -/
  printLine : String → m Unit
  /-- Writes to the standard error and ends the line. -/
  complain : String → m Unit
  log : LogFormat → Log.Entry → m Unit
  newRunId : m String
  now : m String

/-- Why the program stopped. -/
inductive Fatal where
  | config (e : ConfigError)
  | noLog (reason : String)
  | noClient (reason : String)
  | fileExists (path : String)
  | unwritten (reason : String)
deriving DecidableEq, Repr

def Fatal.message : Fatal → String
  | config e => e.message
  | noLog reason => reason
  | noClient reason => "Configuration error: " ++ reason
  | fileExists path => "File already exists: " ++ path ++ ". Use --force to overwrite."
  | unwritten reason => reason

/-- Colours are used where they are forced, and on a terminal unless they are refused. -/
def wantsColours (isTerminal : Bool) (e : Environment) : Bool :=
  if (e.get? "CLICOLOR_FORCE").any (· ≠ "0") then true
  else isTerminal && (e.get? "NO_COLOR").isNone && (e.get? "CLICOLOR").all (· ≠ "0")

/-- Arguments go before the environment and the file. -/
def RunArguments.override (a : RunArguments) (c : Config) : Config :=
  { c with
    target := { c.target with
      port := a.port.getD c.target.port
      host := a.host.getD c.target.host
      apiKey := a.apiKey.getD c.target.apiKey
      timeoutSeconds := a.timeout.getD c.target.timeoutSeconds }
    logging := { c.logging with level := a.logLevel.getD c.logging.level } }

variable {m : Type → Type} [Monad m]

/-- The configuration of a run: the file, the environment, the arguments. -/
def runConfig (files : Files m) (e : Environment) (a : RunArguments) :
    m (Except ConfigError Config) := do
  pure ((← Config.loadOrDefault files a.config).map fun c => a.override (c.withEnvironment e))

/-- The configuration for showing the plan: the file and the environment. -/
def matrixConfig (files : Files m) (e : Environment) (a : MatrixArguments) :
    m (Except ConfigError Config) := do
  pure ((← Config.loadOrDefault files a.config).map (·.withEnvironment e))

/-- Entries that the filter lets pass are logged. -/
def logTo (w : World m) (c : Config) (e : Log.Entry) : m Unit :=
  let filter := Log.Filter.choose w.environment c.logging.directives
  if filter.passes e then w.log c.logging.format e else pure ()

/-- Prints the progress of a run, unless only the report is wanted. -/
def observer (w : World m) (c : Config) (isQuiet : Bool) : Sweep.Observer m :=
  let colours := wantsColours w.isTerminal w.environment
  let say (line : String) : m Unit := if isQuiet then pure () else w.printLine line
  { suiteStarted := fun suite => say (Console.suiteHeading colours suite.title)
    protocolStarted := fun p => say (Console.protocolHeading colours p)
    caseFinished := fun r => say (Console.caseLine colours r)
    log := logTo w c }

/-- The way to the gateway of a configuration that is sound. -/
def connect (w : World m) (c : Config) : m (Except Fatal (Transport.Network m)) :=
  match c.check with
  | .error e => pure (.error (.config e))
  | .ok () => do pure ((← w.network c.target.timeoutSeconds).mapError .noClient)

/-- Runs the plan and prints the report, which can always be written out. Tells whether all cases
passed. -/
def runPlan (w : World m) (network : Transport.Network m) (c : Config) (a : RunArguments) :
    m Bool := do
  if a.json then pure () else w.printLine ("Target: " ++ c.baseUrl)
  let startedAt ← w.now
  let cases ← Sweep.run network (observer w c a.json) c (.ofChoice a.suites a.protocols)
  let report : Report := ⟨← w.newRunId, c.baseUrl, startedAt, ← w.now, cases⟩
  if a.json then w.printLine (Console.reportJson report)
  else w.printLine (Console.summary (wantsColours w.isTerminal w.environment) report)
  pure (!report.hasFailures)

/-- Nothing is sent unless the configuration is sound and the log and the client are there. -/
def handleRun (w : World m) (a : RunArguments) : m (Except Fatal Bool) := do
  match ← runConfig w.files w.environment a with
  | .error e => pure (.error (.config e))
  | .ok c =>
    (Log.Filter.complaints w.environment c.logging.directives).forM w.complain
    match ← w.startLog with
    | .error reason => pure (.error (.noLog reason))
    | .ok () =>
      match ← connect w c with
      | .error e => pure (.error e)
      | .ok network => do pure (.ok (← runPlan w network c a))

/-- Prints the plan, which can always be written out. Nothing is sent, but the client is made. -/
def handleMatrix (w : World m) (a : MatrixArguments) : m (Except Fatal Bool) := do
  match ← matrixConfig w.files w.environment a with
  | .error e => pure (.error (.config e))
  | .ok c =>
    match ← connect w c with
    | .error e => pure (.error e)
    | .ok _ =>
      let cases := (Plan.ofChoice [] a.protocols).plannedCases c
      w.printLine (if a.json then Console.planJson cases else (Console.planTable cases).text)
      pure (.ok true)

/-- Writes the example file, over another one only if that is asked for. -/
def writeExample (files : Files m) (a : InitArguments) : m (Except Fatal Unit) := do
  if (← files.exists? a.output) && !a.force then pure (.error (.fileExists a.output))
  else pure ((← files.write a.output Config.exampleText).mapError .unwritten)

def handleInit (w : World m) (a : InitArguments) : m (Except Fatal Bool) := do
  match ← writeExample w.files a with
  | .error e => pure (.error e)
  | .ok () =>
    w.printLine ("✓ Configuration file created: " ++ a.output)
    w.printLine "  Edit [target] and [models] to match your gateway."
    pure (.ok true)

def handle (w : World m) : Invocation → m (Except Fatal Bool)
  | .run a => handleRun w a
  | .matrix a => handleMatrix w a
  | .init a => handleInit w a
  | .completions shell => do
    (completionScript shell).forM w.printLine
    pure (.ok true)

/-- The exit code of a command. -/
def exitCode : Except Fatal Bool → Nat
  | .ok true => 0
  | .ok false => 1
  | .error _ => 2

def Refusal.message : Refusal → String
  | unknownArgument => "unexpected argument found"
  | invalidSubcommand => "unrecognized subcommand"
  | noValue => "a value is required but none was supplied"
  | notListed => "invalid value: not one of the possible values"
  | invalid => "invalid value"
  | repeated => "the argument cannot be used multiple times"
  | valueNotWanted => "unexpected value found; no more were expected"
  | positionalMissing => "the required arguments were not provided"
  | help _ => ""
  | helpOnNothing _ => ""
  | version => ""

/-- Answers arguments that ask for no command. -/
def refuse (w : World m) : Refusal → m Nat
  | .help path => do
    (helpFor path).forM w.printLine
    pure 0
  | .version => do
    w.printLine versionLine
    pure 0
  | .helpOnNothing path => do
    (helpFor path).forM w.complain
    pure 2
  | other => do
    w.complain ("error: " ++ other.message)
    w.complain ""
    w.complain "For more information, try '--help'."
    pure 2

/-- Does what the words after the program's name ask for, and gives the exit code. -/
def execute (w : World m) (words : List String) : m Nat := do
  match parse w.environment words with
  | .error refusal => refuse w refusal
  | .ok invocation =>
    let result ← handle w invocation
    match result with
    | .error e => w.complain ("Error: " ++ e.message)
    | .ok _ => pure ()
    pure (exitCode result)

end Conformance.CommandLine
