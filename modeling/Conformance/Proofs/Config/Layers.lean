import Conformance.Proofs.Config.Sources
import Conformance.Proofs.Json.Places
import Conformance.Proofs.Pairs

/-! Each setting is what the first of its layers says that says anything: an argument, a variable of
the environment, the file, the default. -/
namespace Conformance

open Outcome
open Json (Decoder Record given)

namespace Config

/-! ### The file and the defaults -/

section Document

variable {γ α : Type} {l : Leniency} {document : Json} {c : Config}

/-- What a document says of a setting in a section, or else the default. Sections and settings are
told by their names, in lists by their places. -/
def setting (document : Json) (part : Nat × String) (field : Nat × String) (item : Decoder γ)
    (default : γ) : Except Json.DecodeError γ :=
  ((given part.1 part.2 document).bind (given field.1 field.2)).elim (.ok default) item

theorem section_holds {r : Record α} {field : Nat × String} {item : Decoder γ} {default : γ}
    {get : α → γ} (h : r.Holds field.1 field.2 item default get) (what : String) {v : Json} {a : α}
    (hv : l.section what r v = .ok a) :
    (given field.1 field.2 v).elim (.ok default) item = .ok (get a) := by
  cases v with
  | array items =>
    simp only [Leniency.section] at hv
    split at hv
    · obtain ⟨⟨b, rest⟩, he, rfl⟩ := map_eq_ok.mp hv
      exact h.listed _ 0 items b rest he
    · exact h.decoder what hv
  | _ => exact h.decoder what hv

/-- A setting in a section of the configuration. -/
theorem setting_eq (part field : Nat × String) {r : Record α} {what : String} {none : α}
    {getPart : Config → α} {item : Decoder γ} (get : α → γ)
    (hp : (record l).Holds part.1 part.2 (l.section what r) none getPart)
    (hf : r.Holds field.1 field.2 item (get none) get) (h : decoderWith l document = .ok c) :
    setting document part field item (get none) = .ok (get (getPart c)) := by
  have hpart := section_holds hp _ h
  unfold setting
  cases hg : given part.1 part.2 document with
  | none =>
    rw [hg] at hpart
    cases hpart
    rfl
  | some v =>
    rw [hg] at hpart
    exact section_holds hf what hpart

/-- Every setting is what the document says of it, or else its default. -/
structure OfDocument (l : Leniency) (document : Json) (c : Config) : Prop where
  scheme : setting document (0, "target") (0, "scheme") .string "http" = .ok c.target.scheme
  host : setting document (0, "target") (1, "host") .string "localhost" = .ok c.target.host
  port : setting document (0, "target") (2, "port") (.unsigned UInt16.size "u16") 11435 =
    .ok c.target.port
  apiKey : setting document (0, "target") (3, "api_key") .string "" = .ok c.target.apiKey
  timeout : setting document (0, "target") (4, "timeout_seconds")
    (.unsigned UInt64.size "u64") 30 = .ok c.target.timeoutSeconds
  defaultModel : setting document (1, "models") (0, "default") .string "code-small" =
    .ok c.models.default
  switchModel : setting document (1, "models") (1, "switch") .string "claude-haiku-4.5" =
    .ok c.models.switch
  groupName : setting document (1, "models") (2, "group_name") .string "glm" =
    .ok c.models.groupName
  groupModel : setting document (1, "models") (3, "group") .string "claude-haiku-4.5" =
    .ok c.models.group
  embedModel : setting document (1, "models") (4, "embed") .string "embed" = .ok c.models.embed
  strictCompat : setting document (2, "matrix") (0, "strict_compat") .bool false =
    .ok c.strictCompat
  level : setting document (3, "logging") (0, "level") .string "warn" = .ok c.logging.level
  format : setting document (3, "logging") (1, "format")
    (.variantWith l.payload formats) .pretty = .ok c.logging.format
  componentLevels : setting document (3, "logging") (2, "component_levels") (.table .string) [] =
    .ok c.logging.componentLevels
  failureBodyChars : setting document (3, "logging") (3, "failure_body_chars")
    (.unsigned UInt64.size "usize") 200 = .ok c.logging.failureBodyChars

open Json.Record (holds_defaulted)

theorem holds_target : (record l).Holds 0 "target" (l.section "struct TargetConfig" targetRecord)
    {} Config.target :=
  holds_defaulted.left.left.left.map fun _ => rfl

theorem holds_models : (record l).Holds 1 "models" (l.section "struct ModelsConfig" modelsRecord)
    {} Config.models :=
  holds_defaulted.right.left.left.map fun _ => rfl

theorem holds_matrix : (record l).Holds 2 "matrix" (l.section "struct MatrixConfig" matrixRecord)
    false Config.strictCompat :=
  holds_defaulted.right.left.map fun _ => rfl

theorem holds_logging : (record l).Holds 3 "logging"
    (l.section "struct LoggingConfig" (loggingRecord l)) {} Config.logging :=
  holds_defaulted.right.map fun _ => rfl

theorem ofDocument (h : decoderWith l document = .ok c) : OfDocument l document c where
  scheme := setting_eq (0, _) (0, _) Target.scheme holds_target
    (holds_defaulted.left.left.left.left.map fun _ => rfl) h
  host := setting_eq (0, _) (1, _) Target.host holds_target
    (holds_defaulted.right.left.left.left.map fun _ => rfl) h
  port := setting_eq (0, _) (2, _) Target.port holds_target
    (holds_defaulted.right.left.left.map fun _ => rfl) h
  apiKey := setting_eq (0, _) (3, _) Target.apiKey holds_target
    (holds_defaulted.right.left.map fun _ => rfl) h
  timeout := setting_eq (0, _) (4, _) Target.timeoutSeconds holds_target
    (holds_defaulted.right.map fun _ => rfl) h
  defaultModel := setting_eq (1, _) (0, _) Aliases.default holds_models
    (holds_defaulted.left.left.left.left.map fun _ => rfl) h
  switchModel := setting_eq (1, _) (1, _) Aliases.switch holds_models
    (holds_defaulted.right.left.left.left.map fun _ => rfl) h
  groupName := setting_eq (1, _) (2, _) Aliases.groupName holds_models
    (holds_defaulted.right.left.left.map fun _ => rfl) h
  groupModel := setting_eq (1, _) (3, _) Aliases.group holds_models
    (holds_defaulted.right.left.map fun _ => rfl) h
  embedModel := setting_eq (1, _) (4, _) Aliases.embed holds_models
    (holds_defaulted.right.map fun _ => rfl) h
  strictCompat := setting_eq (2, _) (0, _) id holds_matrix holds_defaulted h
  level := setting_eq (3, _) (0, _) Logging.level holds_logging
    (holds_defaulted.left.left.left.map fun _ => rfl) h
  format := setting_eq (3, _) (1, _) Logging.format holds_logging
    (holds_defaulted.right.left.left.map fun _ => rfl) h
  componentLevels := setting_eq (3, _) (2, _) Logging.componentLevels holds_logging
    (holds_defaulted.right.left.map fun _ => rfl) h
  failureBodyChars := setting_eq (3, _) (3, _) Logging.failureBodyChars holds_logging
    (holds_defaulted.right.map fun _ => rfl) h

end Document

/-! ### The environment -/

/-- A layer laid on twice is one. -/
theorem getD_getD {α : Type} (x : Option α) (a : α) : x.getD (x.getD a) = x.getD a := by
  cases x <;> rfl

theorem withEnvironment_idem (c : Config) (e : Environment) :
    (c.withEnvironment e).withEnvironment e = c.withEnvironment e := by
  simp only [withEnvironment, Target.withEnvironment, Logging.withEnvironment, getD_getD]

end Config

/-- The environment without a variable. -/
def Environment.unset (e : Environment) (name : String) : Environment :=
  e.filter (·.1 ≠ name)

theorem Environment.get?_cons (k value : String) (rest : Environment) (name : String) :
    Environment.get? ((k, value) :: rest) name =
      if name = k then some value else Environment.get? rest name :=
  Pairs.lookup_cons k value rest name

theorem Environment.get?_unset (e : Environment) (name other : String) :
    (e.unset name).get? other = if other = name then none else e.get? other := by
  induction e with
  | nil => simp [unset, get?]
  | cons v rest ih =>
    obtain ⟨k, value⟩ := v
    rw [Environment.get?_cons, ← ite_not, ← ite_not]
    by_cases hk : k = name
    · have hu : Environment.unset ((k, value) :: rest) name = Environment.unset rest name := by
        simp [unset, hk]
      rw [hu, ih, hk]
      split <;> simp_all
    · have hu : Environment.unset ((k, value) :: rest) name =
          (k, value) :: Environment.unset rest name := by
        simp [unset, hk]
      rw [hu, Environment.get?_cons, ih]
      split <;> simp_all

namespace CommandLine

variable {words : List String} {flags : RunArguments} {e : Environment}

def Invocation.withEnvironment (e : Environment) : Invocation → Invocation
  | .run a => .run (a.withEnvironment e)
  | other => other

/-- The environment fills in what the words leave open, and has no other part in reading them. -/
theorem parse_eq (e : Environment) (words : List String) :
    parse e words = (parse [] words).map (Invocation.withEnvironment e) := by
  have hnone : ∀ a : RunArguments, a.withEnvironment [] = a := by
    intro a
    simp [RunArguments.withEnvironment, Environment.get?]
  -- only the arguments of a run are filled in, all other commands have none to fill
  unfold parse
  cases root.read (.start ()) false words with
  | error refusal => rfl
  | ok found =>
    obtain ⟨progress, below⟩ := found
    simp only [bind, Except.bind]
    split
    · rename_i rest
      cases run.settings {} rest with
      | error refusal => rfl
      | ok a => simp [hnone, Except.map, Invocation.withEnvironment, pure, Except.pure]
    · rename_i rest
      cases matrix.settings {} rest <;> rfl
    · rename_i rest
      unfold parseConfig
      cases config.read (.start ()) false rest with
      | error refusal => rfl
      | ok found =>
        simp only [bind, Except.bind]
        split
        · rename_i more _
          cases init.settings {} more <;> rfl
        · rfl
        · rfl
    · rename_i rest
      cases completions.settings none rest with
      | error refusal => rfl
      | ok shell => cases shell <;> rfl
    · rfl
    · rfl

theorem parse_run (h : parse [] words = .ok (.run flags)) (e : Environment) :
    parse e words = .ok (.run (flags.withEnvironment e)) := by
  rw [parse_eq, h]
  rfl

end CommandLine

/-! ### Variables that are not understood -/

/-- The variable is set to something that cannot be read. -/
inductive Environment.Misread (e : Environment) : String → Prop where
  | port {text : String} (hv : e.get? "GATECHECK_PORT" = some text)
      (h : Config.parseUnsigned UInt16.size text = none) : Misread e "GATECHECK_PORT"
  | timeout {text : String} (hv : e.get? "GATECHECK_TIMEOUT" = some text)
      (h : Config.parseUnsigned UInt64.size text = none) : Misread e "GATECHECK_TIMEOUT"
  | format {text : String} (hv : e.get? "GATECHECK_LOG_FORMAT" = some text)
      (h : Config.formats.lookup (Text.lowerAscii (Text.trim text)) = none) :
      Misread e "GATECHECK_LOG_FORMAT"

theorem LogFormat.parse_eq (text : String) : (LogFormat.parse text).toOption =
    Config.formats.lookup (Text.lowerAscii (Text.trim text)) := by
  unfold LogFormat.parse
  split
  · rename_i hp
    rw [hp]
    rfl
  · rename_i hj
    rw [hj]
    rfl
  · rename_i hp hj
    simp [Config.formats, List.lookup_cons, beq_eq_false_iff_ne.mpr hp,
      beq_eq_false_iff_ne.mpr hj, Except.toOption]

namespace Environment.Misread

variable {e : Environment} {name : String}

theorem config_unset (h : e.Misread name) (c : Config) :
    c.withEnvironment e = c.withEnvironment (e.unset name) := by
  cases h with
  | port hv h =>
    simp [Config.withEnvironment, Config.Target.withEnvironment, Config.Logging.withEnvironment,
      get?_unset, hv, h]
  | timeout hv h =>
    simp [Config.withEnvironment, Config.Target.withEnvironment, Config.Logging.withEnvironment,
      get?_unset, hv, h]
  | format hv h =>
    simp [Config.withEnvironment, Config.Target.withEnvironment, Config.Logging.withEnvironment,
      get?_unset, hv, LogFormat.parse_eq, h]

theorem arguments_unset (h : e.Misread name) (a : CommandLine.RunArguments) :
    a.withEnvironment e = a.withEnvironment (e.unset name) := by
  cases h <;> simp [CommandLine.RunArguments.withEnvironment, get?_unset]

end Environment.Misread

namespace Config

/-- Which layer each setting comes from. -/
structure Layered (flags : CommandLine.RunArguments) (e : Environment) (file c : Config) :
    Prop where
  host : c.target.host = (flags.host.or (e.get? "GATECHECK_HOST")).getD file.target.host
  port : c.target.port = (flags.port.or
    ((e.get? "GATECHECK_PORT").bind (parseUnsigned UInt16.size))).getD file.target.port
  apiKey : c.target.apiKey = (flags.apiKey.or (e.get? "GATECHECK_API_KEY")).getD file.target.apiKey
  timeout : c.target.timeoutSeconds = (flags.timeout.or
    ((e.get? "GATECHECK_TIMEOUT").bind (parseUnsigned UInt64.size))).getD
      file.target.timeoutSeconds
  level : c.logging.level = (flags.logLevel.or (e.get? "GATECHECK_LOG_LEVEL")).getD
    file.logging.level
  format : c.logging.format = ((e.get? "GATECHECK_LOG_FORMAT").bind fun text =>
    formats.lookup (Text.lowerAscii (Text.trim text))).getD file.logging.format
  scheme : c.target.scheme = file.target.scheme
  models : c.models = file.models
  strictCompat : c.strictCompat = file.strictCompat
  componentLevels : c.logging.componentLevels = file.logging.componentLevels
  failureBodyChars : c.logging.failureBodyChars = file.logging.failureBodyChars

theorem layered (flags : CommandLine.RunArguments) (e : Environment) (file : Config) :
    Layered flags e file ((flags.withEnvironment e).override (file.withEnvironment e)) := by
  have hor : ∀ {α : Type} (x y : Option α) (a : α), x.getD (y.getD a) = (x.or y).getD a := by
    intro α x y a
    cases x <;> rfl
  have htwice : ∀ {α : Type} (x y : Option α) (a : α),
      (x.or y).getD (y.getD a) = (x.or y).getD a := by
    intro α x y a
    cases x with
    | none => cases y <;> rfl
    | some v => rfl
  exact {
    host := htwice _ _ _
    port := hor _ _ _
    apiKey := htwice _ _ _
    timeout := hor _ _ _
    level := htwice _ _ _
    format := by simp only [← LogFormat.parse_eq]; rfl
    scheme := rfl
    models := rfl
    strictCompat := rfl
    componentLevels := rfl
    failureBodyChars := rfl }

end Config

namespace Disk

/-- The document that a path leads to. Where there is no file it is empty. -/
def document (disk : Disk) (path : String) : Option Json :=
  match disk.node? path with
  | none => some (.object [])
  | some _ => (disk.readFile path).toOption.bind Toml.read

end Disk

namespace CommandLine

open Config

variable {disk : Disk} {path : String} {document : Json} {file : Config}

theorem found_document (hd : disk.document path = some document)
    (hf : decoderWith tomlLeniency document = .ok file) : found disk path = .ok file := by
  unfold Disk.document at hd
  unfold found
  cases hn : disk.node? path with
  | none =>
    simp only [hn, Option.some.injEq] at hd
    rw [← hd] at hf
    have hdefault : decoderWith tomlLeniency (.object []) = .ok {} := rfl
    exact congrArg Except.ok (Except.ok.inj (hdefault.symm.trans hf))
  | some node =>
    simp only [hn] at hd
    cases hr : disk.readFile path with
    | error reason =>
      rw [hr] at hd
      cases hd
    | ok text =>
      rw [hr] at hd
      have ht : Toml.read text = some document := hd
      simp only [ofToml, ht, hf]
      rfl

theorem runConfig_unset {name : String} (h : e.Misread name) (a : RunArguments) :
    runConfig Disk.files e a disk = runConfig Disk.files (e.unset name) a disk := by
  rw [runConfig_eq Disk.files_shows, runConfig_eq Disk.files_shows, RunArguments.resolved,
    RunArguments.resolved]
  simp only [h.config_unset]

theorem matrixConfig_unset {name : String} (h : e.Misread name) (a : MatrixArguments) :
    matrixConfig Disk.files e a disk = matrixConfig Disk.files (e.unset name) a disk := by
  rw [matrixConfig_eq Disk.files_shows, matrixConfig_eq Disk.files_shows]
  simp only [h.config_unset]

theorem parse_unset {name : String} (h : e.Misread name) (words : List String) :
    parse e words = parse (e.unset name) words := by
  rw [parse_eq e, parse_eq (e.unset name)]
  have hi : Invocation.withEnvironment e = Invocation.withEnvironment (e.unset name) := by
    funext invocation
    cases invocation with
    | run a => exact congrArg Invocation.run (h.arguments_unset a)
    | _ => rfl
  rw [hi]

/-- Nothing but the path is given. -/
def RunArguments.IsBare (a : RunArguments) : Prop :=
  a.port = none ∧ a.host = none ∧ a.apiKey = none ∧ a.logLevel = none ∧ a.timeout = none

/-- What the variables say once more changes nothing. -/
theorem override_bare {a : RunArguments} (ha : a.IsBare) (c : Config) :
    (a.withEnvironment e).override (c.withEnvironment e) = c.withEnvironment e := by
  obtain ⟨hp, hh, hk, hl, ht⟩ := ha
  simp only [RunArguments.override, RunArguments.withEnvironment, hp, hh, hk, hl, ht,
    Option.none_or, Option.getD_none, Config.withEnvironment, Target.withEnvironment,
    Logging.withEnvironment, getD_getD]

/-- The layers of a configuration. With any words, variables and file, or none, each setting of a
run is what the first layer says that may speak of it: the words, the variables, the file, the
defaults. Variables that cannot be read count as unset. Showing the plan uses the configuration of
a run without arguments, and applying the variables again changes nothing. -/
theorem config_layers (e : Environment) (disk : Disk) :
    (∀ words flags document file, parse [] words = .ok (.run flags) →
      disk.document flags.config = some document →
      decoderWith tomlLeniency document = .ok file →
      OfDocument tomlLeniency document file ∧
      ∃ a c, parse e words = .ok (.run a) ∧ runConfig Disk.files e a disk = (.ok c, disk) ∧
        Layered flags e file c) ∧
    (∀ name, e.Misread name →
      (∀ words, parse e words = parse (e.unset name) words) ∧
      (∀ a, runConfig Disk.files e a disk = runConfig Disk.files (e.unset name) a disk) ∧
      ∀ a, matrixConfig Disk.files e a disk = matrixConfig Disk.files (e.unset name) a disk) ∧
    (∀ (a : MatrixArguments) (flags : RunArguments), flags.IsBare → flags.config = a.config →
      matrixConfig Disk.files e a disk =
        runConfig Disk.files e (flags.withEnvironment e) disk) ∧
    ∀ c : Config, (c.withEnvironment e).withEnvironment e = c.withEnvironment e := by
  refine ⟨?_, fun name h => ⟨parse_unset h, runConfig_unset h, matrixConfig_unset h⟩, ?_,
    fun c => withEnvironment_idem c e⟩
  · intro words flags document file hw hd hf
    refine ⟨ofDocument hf, flags.withEnvironment e, _, parse_run hw e, ?_, layered flags e file⟩
    rw [runConfig_eq Disk.files_shows, RunArguments.resolved]
    exact congrArg (fun found => (Except.map _ found, disk)) (found_document hd hf)
  · intro a flags hbare hpath
    rw [matrixConfig_eq Disk.files_shows, runConfig_eq Disk.files_shows, RunArguments.resolved]
    have hp : (flags.withEnvironment e).config = a.config := hpath
    rw [hp]
    simp only [override_bare hbare]

/-- The text of a file. -/
def hostAndPort : String := "[target]\nport = 9000\nhost = 'a'\n"

/-- A file that names a host and a port, variables for the port and the timeout, and an argument for
the host. -/
theorem config_layers_mixed :
    let disk : Disk :=
      { nodes := [([], .directory), (["gatecheck.toml"], .file 0)]
        file := fun _ => { bytes := hostAndPort.toUTF8 } }
    let e : Environment := [("GATECHECK_PORT", "9001"), ("GATECHECK_TIMEOUT", "soon")]
    ∃ a c, parse e ["run", "--host=b"] = .ok (.run a) ∧
      runConfig Disk.files e a disk = (.ok c, disk) ∧
      c.target.host = "b" ∧ c.target.port = 9001 ∧ c.target.timeoutSeconds = 30 := by
  intro disk e
  have htext : disk.document "gatecheck.toml" = Toml.read hostAndPort := by
    have hnode : disk.node? "gatecheck.toml" = some (.file 0) := rfl
    have hbytes : (disk.file 0).read = Disk.decoded hostAndPort.toUTF8 := rfl
    rw [Disk.document, hnode, Disk.readFile, hnode]
    simp only [hbytes, Disk.decoded_toUTF8]
    rfl
  have hread : (disk.document "gatecheck.toml").bind
      (fun document => (decoderWith tomlLeniency document).toOption) =
        some { target := { host := "a", port := 9000 } } := by
    rw [htext]
    decide +kernel
  obtain ⟨document, hdocument, hdecoded⟩ := Option.bind_eq_some_iff.mp hread
  have hfile : decoderWith tomlLeniency document =
      .ok { target := { host := "a", port := 9000 } } := by
    cases hd : decoderWith tomlLeniency document <;> simp_all [Except.toOption]
  obtain ⟨hlayers, _⟩ := config_layers e disk
  obtain ⟨_, a, c, ha, hc, hl⟩ := hlayers ["run", "--host=b"] { host := some "b" } document _ rfl
    hdocument hfile
  exact ⟨a, c, ha, hc, hl.host, hl.port, hl.timeout⟩

end CommandLine

end Conformance
