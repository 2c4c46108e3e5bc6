import Conformance.CommandLine.Arguments
import Conformance.Config.Environment
import Conformance.Protocol.Basic
import Conformance.Sweep.Case

/-!
The commands of the program and their arguments.
-/

namespace Conformance.CommandLine

/-- Where the configuration is looked for unless a path is given. -/
def defaultPath : String := "gatecheck.toml"

structure RunArguments where
  config : String := defaultPath
  port : Option Nat := none
  host : Option String := none
  apiKey : Option String := none
  protocols : List Protocol := []
  suites : List Suite := []
  json : Bool := false
  logLevel : Option String := none
  timeout : Option Nat := none
deriving DecidableEq, Repr

structure MatrixArguments where
  config : String := defaultPath
  protocols : List Protocol := []
  json : Bool := false
deriving DecidableEq, Repr

structure InitArguments where
  output : String := defaultPath
  force : Bool := false
deriving DecidableEq, Repr

inductive Shell where
  | bash
  | elvish
  | fish
  | powershell
  | zsh
deriving DecidableEq, Repr

namespace Shell

def all : List Shell := [bash, elvish, fish, powershell, zsh]

def name : Shell → String
  | bash => "bash"
  | elvish => "elvish"
  | fish => "fish"
  | powershell => "powershell"
  | zsh => "zsh"

end Shell

/-- What the arguments ask for. -/
inductive Invocation where
  | run (arguments : RunArguments)
  | matrix (arguments : MatrixArguments)
  | init (arguments : InitArguments)
  | completions (shell : Shell)
deriving DecidableEq, Repr

/-! ### Values -/

/-- A path is not empty. -/
def pathValue (text : String) : Except Refusal String :=
  if text.isEmpty then .error .noValue else .ok text

/-- A port may be a signed zero. -/
def portValue (text : String) : Except Refusal Nat :=
  let digits := match text.toList with
    | '-' :: '0' :: zeros => if zeros.all (· = '0') then "0" else text
    | _ => text
  match Config.parseUnsigned UInt16.size digits with
  | some port => .ok port
  | none => .error .invalid

def secondsValue (text : String) : Except Refusal Nat :=
  match Config.parseUnsigned UInt64.size text with
  | some n => .ok n
  | none => .error .invalid

/-- One of the names in a list, as it is spelt there. -/
def listedValue {α : Type} (names : List (String × α)) (text : String) : Except Refusal α :=
  match names.lookup text with
  | some a => .ok a
  | none => .error .notListed

def suiteNames : List (String × Suite) := Suite.all.map fun s => (s.name, s)

def shellNames : List (String × Shell) := Shell.all.map fun s => (s.name, s)

/-! ### Commands -/

variable {σ : Type}

def helpFlag : Flag σ := ⟨"help", some 'h', .help, "", "Print help"⟩

def versionFlag : Flag σ := ⟨"version", some 'V', .version, "", "Print version"⟩

/-- A flag whose value is kept after `read` has accepted it. -/
def valueFlag {α : Type} (name : String) (letter : Option Char) (placeholder about : String)
    (read : String → Except Refusal α) (put : α → σ → σ) : Flag σ :=
  ⟨name, letter, .value false fun text s => do pure (put (← read text) s), placeholder, about⟩

def listFlag {α : Type} (name placeholder about : String)
    (read : String → Except Refusal α) (put : α → σ → σ) : Flag σ :=
  ⟨name, none, .value true fun text s => do pure (put (← read text) s), placeholder, about⟩

def programName : String := "gatecheck"

def helpEntry : String × String :=
  ("help", "Print this message or the help of the given subcommand(s)")

def root : Command Unit where
  path := [programName]
  about := "Conformance harness for multi-protocol AI model gateways"
  flags := [helpFlag, versionFlag]
  positional := none
  subcommands := [("run", "Run the conformance matrix"), ("matrix", "Print the planned chat cases"),
    ("config", "Configuration utilities"), ("completions", "Generate shell completions"), helpEntry]

def run : Command RunArguments where
  path := [programName, "run"]
  about := "Run the conformance matrix"
  flags := [
    valueFlag "config" (some 'c') "CONFIG"
      "Path to configuration file [default: gatecheck.toml]" pathValue
      fun v s => { s with config := v },
    valueFlag "port" (some 'p') "PORT" "Override gateway port" portValue
      fun v s => { s with port := some v },
    valueFlag "host" (some 'H') "HOST" "Override gateway host [env: GATECHECK_HOST]" .ok
      fun v s => { s with host := some v },
    valueFlag "api-key" (some 'k') "API_KEY"
      "API key sent to the gateway [env: GATECHECK_API_KEY]" .ok
      fun v s => { s with apiKey := some v },
    listFlag "protocol" "PROTOCOLS" ("Only run these protocols (repeatable, default all) "
      ++ "[possible values: openai, claude, gemini, ollama]") (listedValue Protocol.aliases)
      fun v s => { s with protocols := s.protocols ++ [v] },
    listFlag "suite" "SUITES" ("Only run these suites (repeatable, default all) "
      ++ "[possible values: models, embeddings, chat]") (listedValue suiteNames)
      fun v s => { s with suites := s.suites ++ [v] },
    ⟨"json", none, .switch fun s => { s with json := true }, "",
      "Output the run report as JSON"⟩,
    valueFlag "log-level" (some 'l') "LOG_LEVEL"
      "Set log level (trace, debug, info, warn, error) [env: GATECHECK_LOG_LEVEL]" .ok
      fun v s => { s with logLevel := some v },
    valueFlag "timeout" (some 't') "TIMEOUT" "Per-request timeout in seconds" secondsValue
      fun v s => { s with timeout := some v },
    helpFlag]
  positional := none
  subcommands := []

def matrix : Command MatrixArguments where
  path := [programName, "matrix"]
  about := "Print the planned chat cases"
  flags := [
    valueFlag "config" (some 'c') "CONFIG"
      "Path to configuration file [default: gatecheck.toml]" pathValue
      fun v s => { s with config := v },
    listFlag "protocol" "PROTOCOLS" ("Only show these protocols (repeatable, default all) "
      ++ "[possible values: openai, claude, gemini, ollama]") (listedValue Protocol.aliases)
      fun v s => { s with protocols := s.protocols ++ [v] },
    ⟨"json", none, .switch fun s => { s with json := true }, "", "Output as JSON"⟩,
    helpFlag]
  positional := none
  subcommands := []

def config : Command Unit where
  path := [programName, "config"]
  about := "Configuration utilities"
  flags := [helpFlag]
  positional := none
  subcommands := [("init", "Initialize a new configuration file"), helpEntry]

def init : Command InitArguments where
  path := [programName, "config", "init"]
  about := "Initialize a new configuration file"
  flags := [
    valueFlag "output" (some 'o') "OUTPUT" "Output file path [default: gatecheck.toml]" pathValue
      fun v s => { s with output := v },
    ⟨"force", some 'f', .switch fun s => { s with force := true }, "",
      "Overwrite existing file"⟩,
    helpFlag]
  positional := none
  subcommands := []

def completions : Command (Option Shell) where
  path := [programName, "completions"]
  about := "Generate shell completions"
  flags := [helpFlag]
  positional := some ⟨"SHELL", "Shell to generate completions for [possible values: "
    ++ "bash, elvish, fish, powershell, zsh]",
    fun text _ => (listedValue shellNames text).map some⟩
  subcommands := []

/-! ### Asking for a command -/

/-- The commands below a path of the help command. The help command itself has a page, but none
below it. -/
def below : List String → List String
  | ["gatecheck"] => root.subcommands.map (·.1)
  | ["gatecheck", "config"] => config.subcommands.map (·.1)
  | _ => []

/-- The page that the help command is asked for. -/
def helpPage (path : List String) : List String → Refusal
  | [] => .help path
  | word :: rest =>
    if (below path).contains word then helpPage (path ++ [word]) rest else .invalidSubcommand

/-- What the environment says where the arguments do not. -/
def RunArguments.withEnvironment (a : RunArguments) (e : Environment) : RunArguments :=
  { a with
    host := a.host.or (e.get? "GATECHECK_HOST")
    apiKey := a.apiKey.or (e.get? "GATECHECK_API_KEY")
    logLevel := a.logLevel.or (e.get? "GATECHECK_LOG_LEVEL") }

/-- The arguments after `config`. -/
def parseConfig (words : List String) : Except Refusal Invocation := do
  match (← config.read (.start ()) false words).2 with
  | some ("init", rest) => pure (.init (← init.settings {} rest))
  | some (_, rest) => throw (helpPage config.path rest)
  | none => throw (.helpOnNothing config.path)

/-- What the words after the program's name ask for. -/
def parse (environment : Environment) (words : List String) : Except Refusal Invocation := do
  match (← root.read (.start ()) false words).2 with
  | some ("run", rest) => pure (.run ((← run.settings {} rest).withEnvironment environment))
  | some ("matrix", rest) => pure (.matrix (← matrix.settings {} rest))
  | some ("config", rest) => parseConfig rest
  | some ("completions", rest) =>
    match ← completions.settings none rest with
    | some shell => pure (.completions shell)
    | none => throw .positionalMissing
  | some (_, rest) => throw (helpPage root.path rest)
  | none => throw (.helpOnNothing root.path)

end Conformance.CommandLine
