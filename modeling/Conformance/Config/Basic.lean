import Conformance.Text.Blank

/-!
The configuration of a run: the gateway, the model aliases to ask for, how strictly compatibility
routes are judged, and what is logged.
-/

namespace Conformance

inductive LogFormat where
  | pretty
  | json
deriving DecidableEq, Repr

namespace LogFormat

def name : LogFormat → String
  | pretty => "pretty"
  | json => "json"

/-- Reads a name in any capitalisation, with white space around it. -/
def parse (text : String) : Except String LogFormat :=
  match Text.lowerAscii (Text.trim text) with
  | "pretty" => .ok pretty
  | "json" => .ok json
  | other => .error ("unknown log format '" ++ other ++ "', expected pretty or json")

end LogFormat

namespace Config

/-- Where the gateway is, and how to be let in. -/
structure Target where
  scheme : String := "http"
  host : String := "localhost"
  port : Nat := 11435
  apiKey : String := ""
  timeoutSeconds : Nat := 30
deriving DecidableEq, Repr

/-- Models the gateway knows by these names. -/
structure Aliases where
  default : String := "code-small"
  switch : String := "claude-haiku-4.5"
  groupName : String := "glm"
  group : String := "claude-haiku-4.5"
  embed : String := "embed"
deriving DecidableEq, Repr

structure Logging where
  level : String := "warn"
  format : LogFormat := .pretty
  /-- In the order of the component names. -/
  componentLevels : List (String × String) := []
  /-- How much of a failed response is logged. -/
  failureBodyChars : Nat := 200
deriving DecidableEq, Repr

end Config

structure Config where
  target : Config.Target := {}
  models : Config.Aliases := {}
  /-- Text requests on compatibility routes must be answered by a tool call too. -/
  strictCompat : Bool := false
  logging : Config.Logging := {}
deriving DecidableEq, Repr

/-- Scheme, host and port, without a slash at the end. -/
def Config.Target.baseUrl (t : Config.Target) : String :=
  t.scheme ++ "://" ++ t.host ++ ":" ++ toString t.port

/-- The directives for the log: a level, then a level for each component named. -/
def Config.Logging.directives (l : Config.Logging) : String :=
  l.componentLevels.foldl
    (fun text (component, level) => text ++ ",gatecheck::" ++ component ++ "=" ++ level) l.level

end Conformance
