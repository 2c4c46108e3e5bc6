import Conformance.Config.Check
import Conformance.Config.Encoding
import Conformance.Disk.Basic
import Conformance.Toml.Reader

/-!
The configuration from a TOML file.
-/

namespace Conformance.Config

/-- TOML has no null: a name's only member may be empty instead. -/
def emptyPayload : Json → Except Json.DecodeError Unit
  | .object [] => .ok ()
  | .array [] => .ok ()
  | other => .error (.invalidType other "unit")

def tomlLeniency : Leniency := ⟨true, emptyPayload⟩

def ofToml (text : String) : Except ConfigError Config :=
  match Toml.read text with
  | none => .error (.unreadable "not a TOML document")
  | some document => (decoderWith tomlLeniency document).mapError (.unreadable ·.message)

variable {m : Type → Type} [Monad m]

/-- The configuration in a file. -/
def load (files : Files m) (path : String) : m (Except ConfigError Config) := do
  if ← files.exists? path then
    match ← files.read path with
    | .ok text => pure (ofToml text)
    | .error reason => pure (.error (.io reason))
  else pure (.error (.notFound path))

/-- The configuration in a file, or the defaults where there is no such file. -/
def loadOrDefault (files : Files m) (path : String) : m (Except ConfigError Config) := do
  if ← files.exists? path then load files path else pure (.ok {})

end Conformance.Config
