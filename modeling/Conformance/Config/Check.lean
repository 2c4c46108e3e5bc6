import Conformance.Config.Basic
import Conformance.Url.Reader

/-!
Which configurations a run may start with. The first fault found is reported.
-/

namespace Conformance

inductive Config.Flaw where
  | portZero
  | hostBlank
  | timeoutZero
  | blank
  | notOneSegment
  | unknownComponent
deriving DecidableEq, Repr

inductive Config.UrlFlaw where
  | malformed (cause : Url.Malformed)
  | unsupportedScheme (scheme : String)
deriving DecidableEq, Repr

/-- Why there is no configuration to start with. -/
inductive ConfigError where
  | io (detail : String)
  | notFound (path : String)
  | unreadable (detail : String)
  | invalid (field : String) (flaw : Config.Flaw)
  | badUrl (url : String) (flaw : Config.UrlFlaw)
deriving DecidableEq, Repr

namespace Config

/-- The components that can have a log level of their own. -/
def components : List String :=
  ["cli", "config", "matrix", "protocol", "transport", "validate"]

def Flaw.message : Flaw → String
  | portZero => "port must be non-zero"
  | hostBlank => "host cannot be empty"
  | timeoutZero => "timeout must be at least one second"
  | blank => "cannot be empty"
  | notOneSegment => "must be a single path segment"
  | unknownComponent =>
    "unknown component, expected one of " ++ String.intercalate ", " components

def UrlFlaw.message : UrlFlaw → String
  | malformed cause => cause.message
  | unsupportedScheme scheme => "unsupported scheme '" ++ scheme ++ "'"

end Config

def ConfigError.message : ConfigError → String
  | io detail => "IO error: " ++ detail
  | notFound path => "Config file not found: " ++ path
  | unreadable detail => "Failed to parse config: " ++ detail
  | invalid field flaw => "Invalid value for '" ++ field ++ "': " ++ flaw.message
  | badUrl url flaw => "Invalid gateway base URL '" ++ url ++ "': " ++ flaw.message

namespace Config

def require (condition : Bool) (e : ConfigError) : Except ConfigError Unit :=
  if condition then .ok () else .error e

/-- The settings that name a model or a path segment. -/
def Aliases.fields (m : Aliases) : List (String × String) :=
  [("models.default", m.default), ("models.switch", m.switch), ("models.group", m.group),
    ("models.embed", m.embed), ("models.group_name", m.groupName)]

def isWebScheme (scheme : List Char) : Bool :=
  scheme = "http".toList || scheme = "https".toList

/-- The gateway's address, which must be a web address. -/
def checkUrl (t : Target) : Except ConfigError Unit :=
  match Url.read t.baseUrl with
  | .error cause => .error (.badUrl t.baseUrl (.malformed cause))
  | .ok u =>
    require (isWebScheme u.scheme)
      (.badUrl t.baseUrl (.unsupportedScheme (String.ofList u.scheme)))

def Logging.check (l : Logging) : Except ConfigError Unit := do
  require (!Text.isBlankText l.level) (.invalid "logging.level" .blank)
  l.componentLevels.forM fun (name, _) =>
    require (components.contains name)
      (.invalid ("logging.component_levels." ++ name) .unknownComponent)

def check (c : Config) : Except ConfigError Unit := do
  require (c.target.port ≠ 0) (.invalid "target.port" .portZero)
  require (!Text.isBlankText c.target.host) (.invalid "target.host" .hostBlank)
  require (c.target.timeoutSeconds ≠ 0) (.invalid "target.timeout_seconds" .timeoutZero)
  c.models.fields.forM fun (field, value) =>
    require (!Text.isBlankText value) (.invalid field .blank)
  require (!c.models.groupName.toList.contains '/') (.invalid "models.group_name" .notOneSegment)
  checkUrl c.target
  c.logging.check

end Config

end Conformance
