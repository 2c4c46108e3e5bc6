import Conformance.Config.Basic
import Conformance.Json.Decode

/-!
The configuration as a document. Sections and members that are left out keep their defaults, and
members of other names are passed over.
-/

namespace Conformance.Config

open Json (Decoder Record)

/-- What a kind of document lets pass. -/
structure Leniency where
  /-- Lists in the place of sections may have elements to spare. -/
  surplus : Bool
  /-- What may be the value of a name's only member. -/
  payload : Json → Except Json.DecodeError Unit

def Leniency.section {α : Type} (l : Leniency) (name : String) (r : Record α) : Decoder α
  | .array items =>
    if l.surplus then (r.ofElements name items).map (·.1) else r.decoder name (.array items)
  | other => r.decoder name other

def targetRecord : Record Target :=
  let d : Target := {}
  (Record.defaulted "scheme" Decoder.string d.scheme)
    |>.and (.defaulted "host" Decoder.string d.host)
    |>.and (.defaulted "port" (Decoder.unsigned UInt16.size "u16") d.port)
    |>.and (.defaulted "api_key" Decoder.string d.apiKey)
    |>.and (.defaulted "timeout_seconds" (Decoder.unsigned UInt64.size "u64") d.timeoutSeconds)
    |>.map fun ((((scheme, host), port), key), timeout) => ⟨scheme, host, port, key, timeout⟩

def modelsRecord : Record Aliases :=
  let d : Aliases := {}
  (Record.defaulted "default" Decoder.string d.default)
    |>.and (.defaulted "switch" Decoder.string d.switch)
    |>.and (.defaulted "group_name" Decoder.string d.groupName)
    |>.and (.defaulted "group" Decoder.string d.group)
    |>.and (.defaulted "embed" Decoder.string d.embed)
    |>.map fun ((((default, switch), groupName), group), embed) =>
      ⟨default, switch, groupName, group, embed⟩

def matrixRecord : Record Bool :=
  .defaulted "strict_compat" Decoder.bool ({} : Config).strictCompat

def formats : List (String × LogFormat) :=
  [("pretty", .pretty), ("json", .json)]

def loggingRecord (l : Leniency) : Record Logging :=
  let d : Logging := {}
  (Record.defaulted "level" Decoder.string d.level)
    |>.and (.defaulted "format" (Decoder.variantWith l.payload formats) d.format)
    |>.and (.defaulted "component_levels" (Decoder.table Decoder.string) d.componentLevels)
    |>.and (.defaulted "failure_body_chars" (Decoder.unsigned UInt64.size "usize")
      d.failureBodyChars)
    |>.map fun (((level, format), components), chars) => ⟨level, format, components, chars⟩

def record (l : Leniency) : Record Config :=
  let d : Config := {}
  (Record.defaulted "target" (l.section "struct TargetConfig" targetRecord) d.target)
    |>.and (.defaulted "models" (l.section "struct ModelsConfig" modelsRecord) d.models)
    |>.and (.defaulted "matrix" (l.section "struct MatrixConfig" matrixRecord) d.strictCompat)
    |>.and (.defaulted "logging" (l.section "struct LoggingConfig" (loggingRecord l)) d.logging)
    |>.map fun (((target, models), strict), logging) => ⟨target, models, strict, logging⟩

def decoderWith (l : Leniency) : Decoder Config :=
  l.section "struct HarnessConfig" (record l)

/-- Reads a configuration from JSON. -/
def decoder : Decoder Config :=
  decoderWith ⟨false, Decoder.unit⟩

def Target.toJson (t : Target) : Json :=
  .object [("scheme", .string t.scheme), ("host", .string t.host), ("port", .ofNat t.port),
    ("api_key", .string t.apiKey), ("timeout_seconds", .ofNat t.timeoutSeconds)]

def Aliases.toJson (m : Aliases) : Json :=
  .object [("default", .string m.default), ("switch", .string m.switch),
    ("group_name", .string m.groupName), ("group", .string m.group), ("embed", .string m.embed)]

/-- Component levels are left out where there are none. -/
def Logging.toJson (l : Logging) : Json :=
  let components :=
    if l.componentLevels.isEmpty then []
    else [("component_levels",
      Json.object (l.componentLevels.map fun (name, level) => (name, .string level)))]
  .object ([("level", .string l.level), ("format", .string l.format.name)] ++ components
    ++ [("failure_body_chars", .ofNat l.failureBodyChars)])

def toJson (c : Config) : Json :=
  .object [("target", c.target.toJson), ("models", c.models.toJson),
    ("matrix", .object [("strict_compat", .bool c.strictCompat)]), ("logging", c.logging.toJson)]

end Conformance.Config
