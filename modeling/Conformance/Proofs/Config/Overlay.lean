import Conformance.Config.File
import Conformance.Proofs.Json.Canonical
import Conformance.Proofs.Json.Fields
import Conformance.Proofs.Json.Written
import Mathlib.Data.List.Forall2

/-! A configuration of which parts were left out is read as the same one with the defaults in their
places. -/
namespace Conformance

open Json (Decoder Members Record)
open Outcome

/-! ### Members left out and members added -/

namespace Json

/-- An object that has lost the members of some names and got others of names that are not known,
in any order. -/
inductive Edited (known removed : List String) : Json → Json → Prop where
  | object {full extra edited : Members} (unknown : ∀ m ∈ extra, m.1 ∉ known)
      (perm : edited.Perm (full.filter (·.1 ∉ removed) ++ extra)) :
      Edited known removed (.object full) (.object edited)

namespace Edited

variable {α : Type} {known removed : List String} {full edited : Members} {key : String}
  {item : Decoder α} {a default : α} {v : Json}

theorem exists_object {full edited : Json} (h : Edited known removed full edited) :
    ∃ members, edited = .object members := by
  cases h
  exact ⟨_, rfl⟩

/-- Under a name that is known, only what was there before can be found. -/
theorem mem_iff (h : Edited known removed (.object full) (.object edited)) (hk : key ∈ known) :
    (key, v) ∈ edited ↔ (key, v) ∈ full ∧ key ∉ removed := by
  cases h with
  | @object _ extra _ unknown perm =>
    have hextra : (key, v) ∉ extra := fun hm => unknown _ hm hk
    rw [perm.mem_iff, List.mem_append, List.mem_filter, decide_eq_true_eq, or_iff_left hextra]

theorem get?_eq (h : Edited known removed (.object full) (.object edited)) (hk : key ∈ known)
    (hn : full.keys.Nodup) :
    edited.get? key = if key ∈ removed then none else full.get? key := by
  cases hg : edited.get? key with
  | some w =>
    obtain ⟨hm, hr⟩ := (h.mem_iff hk).mp (Members.mem_of_get?_eq_some hg)
    rw [if_neg hr, (Members.get?_eq_some_iff hn).mpr hm]
  | none =>
    split
    · rfl
    · rename_i hr
      cases hf : full.get? key with
      | none => rfl
      | some w =>
        have hm := (h.mem_iff hk).mpr ⟨Members.mem_of_get?_eq_some hf, hr⟩
        exact absurd hg (Members.get?_ne_none_of_mem hm)

/-- A field that may be left out is read from the edited object as from the full one, or else has
its default. -/
theorem ofMembers_defaulted (h : Edited known removed (.object full) (.object edited))
    (hk : key ∈ known) (hn : full.keys.Nodup)
    (hv : (full.get? key).elim (.ok default) item = .ok a) :
    (Record.defaulted key item default).ofMembers edited =
      .ok (if key ∈ removed then default else a) := by
  refine Record.ofMembers_eq_ok.mpr ⟨fun m hm => ?_, ?_⟩
  · obtain ⟨k, v⟩ := m
    by_cases hkey : k = key
    · subst hkey
      have hg := (Members.get?_eq_some_iff hn).mpr ((h.mem_iff hk).mp hm).1
      rw [hg] at hv
      have hv : item v = .ok a := hv
      simp [Record.defaulted, Record.fieldWith, hv, Except.map]
    · simp [Record.defaulted, Record.fieldWith, hkey]
  · by_cases hr : key ∈ removed
    · simp [Record.defaulted, Record.fieldWith, h.get?_eq hk hn, hr]
    · cases hf : full.get? key with
      | none =>
        rw [hf] at hv
        simpa [Record.defaulted, Record.fieldWith, h.get?_eq hk hn, hr, hf] using hv
      | some v =>
        rw [hf] at hv
        simpa [Record.defaulted, Record.fieldWith, h.get?_eq hk hn, hr, hf] using hv

theorem ofMembers_member (h : Edited known removed (.object full) (.object edited))
    (hk : key ∈ known) (hn : full.keys.Nodup) (hg : full.get? key = some v) (hv : item v = .ok a) :
    (Record.defaulted key item default).ofMembers edited =
      .ok (if key ∈ removed then default else a) :=
  h.ofMembers_defaulted hk hn (by rw [hg]; exact hv)

theorem refl (known : List String) (full : Members) :
    Edited known [] (.object full) (.object full) :=
  .object (List.forall_mem_nil _) (by simp)

/-- Nothing is lost in canonical form. -/
theorem canonical (known : List String) (hn : full.keys.Nodup) :
    Edited known [] (.object (canonicalMembers full)) (.object (canonicalOf full)) :=
  .object (List.forall_mem_nil _) (by simpa using canonicalOf_perm hn)

end Edited

end Json

namespace Config

/-! ### Configurations of which parts are left out -/

/-- Numbers of the sizes they have, and component levels by name. -/
structure Fits (c : Config) : Prop where
  port : c.target.port < UInt16.size
  timeout : c.target.timeoutSeconds < UInt64.size
  failureBodyChars : c.logging.failureBodyChars < UInt64.size
  componentLevels : (c.logging.componentLevels.map (·.1)).Pairwise (· < ·)

/-- Sections to leave out, and fields to leave out of each section. -/
structure Removal where
  sections : List String := []
  fields : String → List String := fun _ => []

/-- The default, where the field or its section is left out. -/
def Removal.pick {α : Type} (r : Removal) (part field : String) (value default : α) : α :=
  if part ∈ r.sections ∨ field ∈ r.fields part then default else value

/-- The configuration with defaults in the places of all that is left out. -/
def without (c : Config) (r : Removal) : Config :=
  let d : Config := {}
  { target := {
      scheme := r.pick "target" "scheme" c.target.scheme d.target.scheme
      host := r.pick "target" "host" c.target.host d.target.host
      port := r.pick "target" "port" c.target.port d.target.port
      apiKey := r.pick "target" "api_key" c.target.apiKey d.target.apiKey
      timeoutSeconds :=
        r.pick "target" "timeout_seconds" c.target.timeoutSeconds d.target.timeoutSeconds }
    models := {
      default := r.pick "models" "default" c.models.default d.models.default
      switch := r.pick "models" "switch" c.models.switch d.models.switch
      groupName := r.pick "models" "group_name" c.models.groupName d.models.groupName
      group := r.pick "models" "group" c.models.group d.models.group
      embed := r.pick "models" "embed" c.models.embed d.models.embed }
    strictCompat := r.pick "matrix" "strict_compat" c.strictCompat d.strictCompat
    logging := {
      level := r.pick "logging" "level" c.logging.level d.logging.level
      format := r.pick "logging" "format" c.logging.format d.logging.format
      componentLevels :=
        r.pick "logging" "component_levels" c.logging.componentLevels d.logging.componentLevels
      failureBodyChars := r.pick "logging" "failure_body_chars" c.logging.failureBodyChars
        d.logging.failureBodyChars } }

def sectionNames : List String := ["target", "models", "matrix", "logging"]

/-- The names of the fields of a section. -/
def fieldNames : String → List String
  | "target" => ["scheme", "host", "port", "api_key", "timeout_seconds"]
  | "models" => ["default", "switch", "group_name", "group", "embed"]
  | "matrix" => ["strict_compat"]
  | "logging" => ["level", "format", "component_levels", "failure_body_chars"]
  | _ => []

/-- A document of the configuration without the parts to leave out. It may have other members, in
its sections as well as beside them. -/
inductive Edited (c : Config) (r : Removal) : Json → Prop where
  | document {whole sections : Members} {edited : Json} (encoded : c.toJson = .object whole)
      (fields : List.Forall₂ (fun part part' => part.1 = part'.1 ∧
        Json.Edited (fieldNames part.1) (r.fields part.1) part.2 part'.2) whole sections)
      (parts : Json.Edited sectionNames r.sections (.object sections) edited) : Edited c r edited

variable {c : Config} {r : Removal} {l : Leniency} {edited : Members} {removed : List String}

theorem without_nothing (c : Config) : c.without {} = c := by
  simp [without, Removal.pick]

theorem unsigned_ofNat {size n : Nat} {name : String} (h : n < size) :
    Decoder.unsigned size name (.ofNat n) = .ok n := by
  rw [Json.ofNat, Decoder.unsigned, if_pos ⟨Int.natCast_nonneg n, Int.ofNat_lt.mpr h⟩,
    Int.toNat_natCast]

theorem decoder_formatName (payload : Json → Except Json.DecodeError Unit) (f : LogFormat) :
    Decoder.variantWith payload formats (.string f.name) = .ok f := by
  cases f <;> rfl

theorem table_strings (levels : List (String × String)) :
    Decoder.table Decoder.string (.object (levels.map fun (name, level) => (name, .string level))) =
      .ok levels := by
  have hread : levels.mapM (fun x => (.ok (x.1, x.2) : Except Json.DecodeError _)) =
      .ok (levels.map id) :=
    mapM_eq_ok_map fun x _ => rfl
  rw [Decoder.table, List.mapM_map]
  exact hread.trans (congrArg Except.ok (List.map_id levels))

/-! ### Each section -/

theorem targetRecord_edited (hf : c.Fits)
    (h : Json.Edited (fieldNames "target") removed c.target.toJson (.object edited)) :
    targetRecord.ofMembers edited = .ok (c.without { fields := fun _ => removed }).target := by
  rw [targetRecord, Record.ofMembers_map, map_eq_ok]
  refine ⟨_, Record.ofMembers_and.mpr ⟨Record.ofMembers_and.mpr ⟨Record.ofMembers_and.mpr ⟨
    Record.ofMembers_and.mpr ⟨h.ofMembers_member ?_ ?_ rfl rfl, h.ofMembers_member ?_ ?_ rfl rfl⟩,
    h.ofMembers_member ?_ ?_ rfl (unsigned_ofNat hf.port)⟩,
    h.ofMembers_member ?_ ?_ rfl rfl⟩,
    h.ofMembers_member ?_ ?_ rfl (unsigned_ofNat hf.timeout)⟩, ?_⟩
  all_goals simp [fieldNames, Members.keys, without, Removal.pick]

theorem modelsRecord_edited
    (h : Json.Edited (fieldNames "models") removed c.models.toJson (.object edited)) :
    modelsRecord.ofMembers edited = .ok (c.without { fields := fun _ => removed }).models := by
  rw [modelsRecord, Record.ofMembers_map, map_eq_ok]
  refine ⟨_, Record.ofMembers_and.mpr ⟨Record.ofMembers_and.mpr ⟨Record.ofMembers_and.mpr ⟨
    Record.ofMembers_and.mpr ⟨h.ofMembers_member ?_ ?_ rfl rfl, h.ofMembers_member ?_ ?_ rfl rfl⟩,
    h.ofMembers_member ?_ ?_ rfl rfl⟩,
    h.ofMembers_member ?_ ?_ rfl rfl⟩,
    h.ofMembers_member ?_ ?_ rfl rfl⟩, ?_⟩
  all_goals simp [fieldNames, Members.keys, without, Removal.pick]

theorem matrixRecord_edited (h : Json.Edited (fieldNames "matrix") removed
      (.object [("strict_compat", .bool c.strictCompat)]) (.object edited)) :
    matrixRecord.ofMembers edited =
      .ok (c.without { fields := fun _ => removed }).strictCompat := by
  rw [matrixRecord]
  refine Eq.trans (h.ofMembers_member ?_ ?_ rfl rfl) ?_
  all_goals simp [fieldNames, Members.keys, without, Removal.pick]

/-- Where there are no component levels, their member is missing anyway. -/
theorem loggingRecord_edited (hf : c.Fits)
    (h : Json.Edited (fieldNames "logging") removed c.logging.toJson (.object edited)) :
    (loggingRecord l).ofMembers edited =
      .ok (c.without { fields := fun _ => removed }).logging := by
  have hchars := hf.failureBodyChars
  obtain ⟨_, _, _, ⟨level, format, levels, chars⟩⟩ := c
  rw [loggingRecord, Record.ofMembers_map, map_eq_ok]
  cases levels with
  | nil =>
    refine ⟨_, Record.ofMembers_and.mpr ⟨Record.ofMembers_and.mpr ⟨Record.ofMembers_and.mpr ⟨
      h.ofMembers_member ?_ ?_ rfl rfl, h.ofMembers_member ?_ ?_ rfl (decoder_formatName _ _)⟩,
      h.ofMembers_defaulted ?_ ?_ rfl⟩,
      h.ofMembers_member ?_ ?_ rfl (unsigned_ofNat hchars)⟩, ?_⟩
    all_goals simp [fieldNames, Members.keys, without, Removal.pick]
  | cons first rest =>
    refine ⟨_, Record.ofMembers_and.mpr ⟨Record.ofMembers_and.mpr ⟨Record.ofMembers_and.mpr ⟨
      h.ofMembers_member ?_ ?_ rfl rfl, h.ofMembers_member ?_ ?_ rfl (decoder_formatName _ _)⟩,
      h.ofMembers_member ?_ ?_ rfl (table_strings _)⟩,
      h.ofMembers_member ?_ ?_ rfl (unsigned_ofNat hchars)⟩, ?_⟩
    all_goals simp [fieldNames, Members.keys, without, Removal.pick]

/-! ### The document -/

/-- A section that is left out is one of which every field is left out. -/
theorem without_eq (c : Config) (r : Removal) :
    let only (part : String) : Config := c.without { fields := fun _ => r.fields part }
    c.without r = {
      target := if "target" ∈ r.sections then {} else (only "target").target
      models := if "models" ∈ r.sections then {} else (only "models").models
      strictCompat := if "matrix" ∈ r.sections then false else (only "matrix").strictCompat
      logging := if "logging" ∈ r.sections then {} else (only "logging").logging } := by
  intro only
  simp only [only, without, Removal.pick, Config.mk.injEq]
  refine ⟨?_, ?_, ?_, ?_⟩
  · by_cases h : "target" ∈ r.sections <;> simp [h]
  · by_cases h : "models" ∈ r.sections <;> simp [h]
  · by_cases h : "matrix" ∈ r.sections <;> simp [h]
  · by_cases h : "logging" ∈ r.sections <;> simp [h]

theorem decoderWith_edited {document : Json} (hf : c.Fits) (h : c.Edited r document) :
    decoderWith l document = .ok (c.without r) := by
  obtain ⟨encoded, fields, parts⟩ := h
  cases encoded
  obtain ⟨⟨_, target⟩, _, ⟨rfl, htarget⟩, behind, rfl⟩ := List.forall₂_cons_left_iff.mp fields
  obtain ⟨⟨_, models⟩, _, ⟨rfl, hmodels⟩, behind', rfl⟩ := List.forall₂_cons_left_iff.mp behind
  obtain ⟨⟨_, matrix⟩, _, ⟨rfl, hmatrix⟩, last, rfl⟩ := List.forall₂_cons_left_iff.mp behind'
  obtain ⟨⟨_, logging⟩, _, ⟨rfl, hlogging⟩, nothing, rfl⟩ := List.forall₂_cons_left_iff.mp last
  obtain rfl := List.forall₂_nil_left_iff.mp nothing
  obtain ⟨target, rfl⟩ := htarget.exists_object
  obtain ⟨models, rfl⟩ := hmodels.exists_object
  obtain ⟨matrix, rfl⟩ := hmatrix.exists_object
  obtain ⟨logging, rfl⟩ := hlogging.exists_object
  obtain ⟨document, rfl⟩ := parts.exists_object
  have hrecord : decoderWith l (.object document) = (record l).ofMembers document := rfl
  rw [hrecord, record, Record.ofMembers_map, map_eq_ok]
  refine ⟨_, Record.ofMembers_and.mpr ⟨Record.ofMembers_and.mpr ⟨Record.ofMembers_and.mpr ⟨
    parts.ofMembers_member ?_ ?_ rfl (targetRecord_edited hf htarget),
    parts.ofMembers_member ?_ ?_ rfl (modelsRecord_edited hmodels)⟩,
    parts.ofMembers_member ?_ ?_ rfl (matrixRecord_edited hmatrix)⟩,
    parts.ofMembers_member ?_ ?_ rfl (loggingRecord_edited hf hlogging)⟩,
    (without_eq c r).symm⟩
  all_goals simp [sectionNames, Members.keys]

theorem canonical_levels {levels : List (String × String)}
    (h : (levels.map (·.1)).Pairwise (· < ·)) :
    (Json.object (levels.map fun (name, level) => (name, .string level))).canonical =
      .object (levels.map fun (name, level) => (name, .string level)) := by
  refine Json.canonical_of_sorted (.object ?_ ?_)
  · simpa [Members.Ordered, Members.keys, Function.comp_def] using h
  · exact List.forall_mem_map.mpr fun x _ => .string x.2

/-- The sections are objects of distinct names, with values that have only one form. -/
theorem section_canonical (hf : c.Fits) {part : String × Json}
    (hp : part ∈ [("target", c.target.toJson), ("models", c.models.toJson),
      ("matrix", .object [("strict_compat", .bool c.strictCompat)]),
      ("logging", c.logging.toJson)]) :
    Json.Edited (fieldNames part.1) [] part.2 part.2.canonical := by
  suffices h : ∃ full : Members, part.2 = .object full ∧ full.keys.Nodup ∧
      Json.canonicalMembers full = full by
    obtain ⟨full, hfull, hn, hc⟩ := h
    have hedited := Json.Edited.canonical (fieldNames part.1) hn
    rwa [hc, ← Json.canonical_object, ← hfull] at hedited
  simp only [List.mem_cons, List.not_mem_nil, or_false] at hp
  obtain rfl | rfl | rfl | rfl := hp
  · exact ⟨_, rfl, by simp [Members.keys], rfl⟩
  · exact ⟨_, rfl, by simp [Members.keys], rfl⟩
  · exact ⟨_, rfl, by simp [Members.keys], rfl⟩
  · have hlevels := hf.componentLevels
    obtain ⟨_, _, _, ⟨level, format, levels, chars⟩⟩ := c
    cases levels with
    | nil => exact ⟨_, rfl, by simp [Members.keys], rfl⟩
    | cons first rest =>
      have hcanonical := congrArg (fun table => [("level", Json.string level),
        ("format", .string format.name), ("component_levels", table),
        ("failure_body_chars", .ofNat chars)]) (canonical_levels hlevels)
      exact ⟨_, rfl, by simp [Members.keys], hcanonical⟩

/-- A configuration that is written and read again has lost nothing. -/
theorem edited_canonical (hf : c.Fits) : c.Edited {} c.toJson.canonical := by
  have hn : (Members.keys [("target", c.target.toJson), ("models", c.models.toJson),
      ("matrix", Json.object [("strict_compat", .bool c.strictCompat)]),
      ("logging", c.logging.toJson)]).Nodup := by
    simp [Members.keys]
  refine .document rfl ?_ (Json.Edited.canonical sectionNames hn)
  rw [Json.canonicalMembers_eq_map, List.forall₂_map_right_iff, List.forall₂_same]
  exact fun part hp => ⟨rfl, section_canonical hf hp⟩

theorem edited_toJson (c : Config) : c.Edited {} c.toJson := by
  refine .document rfl ?_ (.refl sectionNames _)
  simp only [List.forall₂_same, List.forall_mem_cons, true_and]
  exact ⟨.refl _ _, .refl _ _, .refl _ _, .refl _ _, nofun⟩

theorem fits_toJson {limit : Nat} (hf : c.Fits) : Json.Fits (limit + 3) c.toJson := by
  have htable : Json.Fits (limit + 1) (.object (c.logging.componentLevels.map fun (name, level) =>
      (name, .string level))) :=
    .object (List.forall_mem_map.mpr fun x _ => .string x.2)
  have hport : c.target.port < UInt64.size := Nat.lt_trans hf.port (by decide)
  have htarget : Json.Fits (limit + 2) c.target.toJson := by
    refine .object ?_
    simp only [List.forall_mem_cons]
    exact ⟨.string _, .string _, Json.fits_ofNat hport, .string _, Json.fits_ofNat hf.timeout,
      nofun⟩
  have hmodels : Json.Fits (limit + 2) c.models.toJson := by
    refine .object ?_
    simp only [List.forall_mem_cons]
    exact ⟨.string _, .string _, .string _, .string _, .string _, nofun⟩
  have hlogging : Json.Fits (limit + 2) c.logging.toJson := by
    refine .object ?_
    simp only [List.cons_append, List.nil_append, List.forall_mem_cons, List.forall_mem_append]
    refine ⟨.string _, .string _, ?_, Json.fits_ofNat hf.failureBodyChars, nofun⟩
    split
    · nofun
    · exact List.forall_mem_singleton.mpr htable
  refine .object ?_
  simp only [List.forall_mem_cons]
  exact ⟨htarget, hmodels, .object (List.forall_mem_singleton.mpr (.bool _)), hlogging, nofun⟩

/-- Component levels are written where there are any. -/
theorem get?_componentLevels {logging : Members} (h : c.logging.toJson = .object logging) :
    logging.get? "component_levels" = none ↔ c.logging.componentLevels = [] := by
  obtain ⟨_, _, _, ⟨level, format, levels, chars⟩⟩ := c
  cases levels with
  | nil =>
    cases h
    exact ⟨fun _ => rfl, fun _ => rfl⟩
  | cons first rest =>
    cases h
    exact ⟨nofun, nofun⟩

/-- A document of a configuration from which any sections and fields were left out, whatever was
added to it under other names, is read as that configuration with the defaults in their places, from
TOML as from JSON. With nothing left out it is read as the configuration itself, in memory and from
its text, although component levels are written only where there are any. -/
theorem defaults_overlaid (hf : c.Fits) :
    (∀ (r : Removal) (document : Json), c.Edited r document →
      (∀ l, decoderWith l document = .ok (c.without r)) ∧
      ∀ text, Toml.read text = some document → ofToml text = .ok (c.without r)) ∧
    (∀ l, decoderWith l c.toJson = .ok c) ∧
    (∃ document, Json.read c.toJson.pretty = .ok document ∧ decoder document = .ok c) ∧
    ∀ logging : Members, c.logging.toJson = .object logging →
      (logging.get? "component_levels" = none ↔ c.logging.componentLevels = []) := by
  have hwhole : ∀ (l : Leniency) (document : Json), c.Edited {} document →
      decoderWith l document = .ok c := by
    intro l document h
    rw [decoderWith_edited hf h, without_nothing]
  refine ⟨fun r document h => ⟨fun l => decoderWith_edited hf h, fun text ht => ?_⟩,
    fun l => hwhole l _ c.edited_toJson,
    ⟨_, Json.read_pretty (fits_toJson hf), hwhole _ _ (edited_canonical hf)⟩,
    fun logging => get?_componentLevels⟩
  simp only [ofToml, ht, decoderWith_edited hf h]
  rfl

/-- A configuration that is nowhere the default one. -/
def farOff : Config where
  target := ⟨"https", "gateway", 443, "cs-key", 5⟩
  models := ⟨"a", "b", "c", "d", "e"⟩
  strictCompat := true
  logging := ⟨"info", .json, [("matrix", "debug"), ("transport", "trace")], 0⟩

/-- Its target without the port. -/
def farOffTarget : Json :=
  .object [("scheme", .string "https"), ("host", .string "gateway"), ("api_key", .string "cs-key"),
    ("timeout_seconds", .ofNat 5)]

/-- What it logs without the format, and with a member that is new. -/
def farOffLogging : Json :=
  .object [("level", .string "info"), ("component_levels", .object
    [("matrix", .string "debug"), ("transport", .string "trace")]),
    ("failure_body_chars", .ofNat 0), ("colour", .null)]

/-- Its document without the models, in another order, and with another member that is new. -/
def farOffDocument : Json :=
  .object [("matrix", .object [("strict_compat", .bool true)]), ("target", farOffTarget),
    ("logging", farOffLogging), ("version", .ofNat 2)]

theorem defaults_overlaid_farOff :
    farOff.Fits ∧ decoder farOffDocument = .ok { farOff with
      target := { farOff.target with port := 11435 }
      models := {}
      logging := { farOff.logging with format := .pretty } } := by
  have hf : farOff.Fits := by
    exact ⟨by decide, by decide, by decide, by decide⟩
  let r : Removal := {
    sections := ["models"]
    fields := fun part => if part = "target" then ["port"]
      else if part = "logging" then ["format"] else [] }
  have htarget : Json.Edited (fieldNames "target") ["port"] farOff.target.toJson farOffTarget :=
    .object (List.forall_mem_nil _) (.refl _)
  have hlogging : Json.Edited (fieldNames "logging") ["format"] farOff.logging.toJson
      farOffLogging :=
    .object (List.forall_mem_singleton.mpr (by decide)) (.refl _)
  let matrix : Json := .object [("strict_compat", .bool true)]
  let sections : Members := [("target", farOffTarget), ("models", farOff.models.toJson),
    ("matrix", matrix), ("logging", farOffLogging)]
  have hnew : ∀ m ∈ [("version", Json.ofNat 2)], m.1 ∉ sectionNames :=
    List.forall_mem_singleton.mpr (by decide)
  have h : farOff.Edited r farOffDocument :=
    @Edited.document farOff r _ sections _ rfl
      (.cons ⟨rfl, htarget⟩ (.cons ⟨rfl, .refl _ _⟩ (.cons ⟨rfl, .refl _ _⟩
        (.cons ⟨rfl, hlogging⟩ .nil))))
      (.object hnew (.swap _ _ _))
  exact ⟨hf, ((defaults_overlaid hf).1 r _ h).1 _⟩

end Config

end Conformance
