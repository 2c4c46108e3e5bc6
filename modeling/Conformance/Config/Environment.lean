import Conformance.Config.Basic
import Conformance.Text.Digit

/-!
Settings from environment variables. A value that cannot be read leaves the setting as it is.
-/

namespace Conformance

/-- Environment variables by name. -/
abbrev Environment := List (String × String)

namespace Environment

def get? (e : Environment) (name : String) : Option String :=
  e.lookup name

/-- The variables that matter to the program. -/
def names : List String := [
  "GATECHECK_HOST", "GATECHECK_PORT", "GATECHECK_API_KEY", "GATECHECK_TIMEOUT",
  "GATECHECK_LOG_LEVEL", "GATECHECK_LOG_FORMAT", "RUST_LOG", "CLICOLOR_FORCE", "CLICOLOR",
  "NO_COLOR"]

end Environment

namespace Config

/-- A decimal number below `size`, with or without a plus sign. -/
def parseUnsigned (size : Nat) (text : String) : Option Nat := do
  let digits := match text.toList with
    | '+' :: rest => rest
    | cs => cs
  let n ← Text.ofNumeral 10 digits
  if n < size then some n else none

def Target.withEnvironment (t : Target) (e : Environment) : Target :=
  { t with
    host := (e.get? "GATECHECK_HOST").getD t.host
    port := ((e.get? "GATECHECK_PORT").bind (parseUnsigned UInt16.size)).getD t.port
    apiKey := (e.get? "GATECHECK_API_KEY").getD t.apiKey
    timeoutSeconds :=
      ((e.get? "GATECHECK_TIMEOUT").bind (parseUnsigned UInt64.size)).getD t.timeoutSeconds }

def Logging.withEnvironment (l : Logging) (e : Environment) : Logging :=
  let format := (e.get? "GATECHECK_LOG_FORMAT").bind fun text => (LogFormat.parse text).toOption
  { l with
    level := (e.get? "GATECHECK_LOG_LEVEL").getD l.level
    format := format.getD l.format }

def withEnvironment (c : Config) (e : Environment) : Config :=
  { c with target := c.target.withEnvironment e, logging := c.logging.withEnvironment e }

end Config

end Conformance
