import Conformance.Console.Report
import Conformance.Proofs.Sweep.Counts
import Conformance.Proofs.Verdict.Encoding
import Mathlib.Data.List.Forall2

/-! The report of a run is read back from its JSON document: every case with all its members, and
counts that agree with the verdicts. -/
namespace Conformance

open Json (Decoder Members Record canonicalOf)

variable {limit : Nat}

theorem Fault.name_injective : Function.Injective Fault.name := by
  intro f g h
  have hf := f.decoder_name
  rw [h, g.decoder_name] at hf
  exact (Except.ok.inj hf).symm

theorem Suite.decoder_name (s : Suite) : Suite.decoder (.string s.name) = .ok s := by
  cases s <;> rfl

theorem Protocol.decoder_name (p : Protocol) : Protocol.decoder (.string p.name) = .ok p := by
  cases p <;> rfl

theorem Scenario.decoder_name (s : Scenario) : Scenario.decoder (.string s.name) = .ok s := by
  cases s <;> rfl

/-! ### Cases -/

namespace CaseReport

/-- The members of a case, those of its identity first. -/
def members (c : CaseReport) : Members :=
  c.id.members ++ [("verdict", c.verdict.toJson), ("elapsed_ms", .ofNat c.elapsed)]

theorem nodup_members (c : CaseReport) : c.members.keys.Nodup := by
  obtain ⟨⟨suite, protocol, route, scenario, label, method, url⟩, verdict, elapsed⟩ := c
  cases route <;> cases scenario <;> simp [members, CaseId.members, Members.keys]

/-- Members in which a case is found as it was: each of its own under a name of its own, and no
others. -/
structure Kept (c : CaseReport) (found : Members) : Prop where
  names : found.keys.Perm c.members.keys
  distinct : found.keys.Nodup
  suite : (found.get? "suite").map Suite.decoder = some (.ok c.id.suite)
  protocol : (found.get? "protocol").map Protocol.decoder = some (.ok c.id.protocol)
  route : found.get? "route" = c.id.route.map fun r => .string r.label
  scenario : (found.get? "scenario").map Scenario.decoder = c.id.scenario.map .ok
  label : found.get? "label" = some (.string c.id.label)
  method : found.get? "method" = some (.string c.id.method)
  url : found.get? "url" = some (.string c.id.url)
  elapsed : found.get? "elapsed_ms" = some (.ofNat c.elapsed)
  verdict : (found.get? "verdict").map Verdict.decoder = some (.ok c.verdict)

/-- Numbers of 64 bits. -/
structure Fits (c : CaseReport) : Prop where
  elapsed : c.elapsed < UInt64.size
  verdict : c.verdict.Fits

variable {c : CaseReport}

/-- The members by their names. Route and scenario may be missing. -/
theorem get?_members (c : CaseReport) :
    c.members.get? "suite" = some (.string c.id.suite.name) ∧
    c.members.get? "protocol" = some (.string c.id.protocol.name) ∧
    c.members.get? "route" = (c.id.route.map fun r => .string r.label) ∧
    c.members.get? "scenario" = (c.id.scenario.map fun s => .string s.name) ∧
    c.members.get? "label" = some (.string c.id.label) ∧
    c.members.get? "method" = some (.string c.id.method) ∧
    c.members.get? "url" = some (.string c.id.url) ∧
    c.members.get? "elapsed_ms" = some (.ofNat c.elapsed) ∧
    c.members.get? "verdict" = some c.verdict.toJson := by
  obtain ⟨⟨suite, protocol, route, scenario, label, method, url⟩, verdict, elapsed⟩ := c
  cases route <;> cases scenario <;> exact ⟨rfl, rfl, rfl, rfl, rfl, rfl, rfl, rfl, rfl⟩

theorem kept_canonicalOf (hf : c.Fits) : c.Kept (canonicalOf c.members) := by
  obtain ⟨hsuite, hprotocol, hroute, hscenario, hlabel, hmethod, hurl, helapsed, hverdict⟩ :=
    c.get?_members
  have hget := Json.get?_canonicalOf c.nodup_members
  exact {
    names := Json.keys_canonicalOf_perm c.nodup_members
    distinct := Json.nodup_canonicalOf c.members
    suite := by
      rw [hget, hsuite]
      exact congrArg some c.id.suite.decoder_name
    protocol := by
      rw [hget, hprotocol]
      exact congrArg some c.id.protocol.decoder_name
    route := by
      rw [hget, hroute]
      cases c.id.route <;> rfl
    scenario := by
      rw [hget, hscenario]
      cases c.id.scenario with
      | none => rfl
      | some s => exact congrArg some s.decoder_name
    label := by
      rw [hget, hlabel]
      rfl
    method := by
      rw [hget, hmethod]
      rfl
    url := by
      rw [hget, hurl]
      rfl
    elapsed := by
      rw [hget, helapsed]
      rfl
    verdict := by
      rw [hget, hverdict]
      exact congrArg some (Verdict.decoder_canonical hf.verdict) }

theorem fits_toJson (hf : c.Fits) : Json.Fits (limit + 3) c.toJson := by
  have hid : ∀ m ∈ c.id.members, ∃ text, m.2 = .string text := by
    obtain ⟨⟨suite, protocol, route, scenario, label, method, url⟩, verdict, elapsed⟩ := c
    cases route <;> cases scenario <;> simp [CaseId.members]
  refine .object (List.forall_mem_append.mpr ⟨fun m hm => ?_, ?_⟩)
  · obtain ⟨text, ht⟩ := hid m hm
    exact ht ▸ .string text
  · simp only [List.forall_mem_cons]
    exact ⟨Verdict.fits_toJson hf.verdict, Json.fits_ofNat hf.elapsed, nofun⟩

/-- Reads the verdict of a case, whatever else is there. -/
def verdictDecoder : Decoder Verdict :=
  (Record.required "verdict" Verdict.decoder).decoder "struct CaseReport"

theorem verdictDecoder_canonical (hf : c.Fits) :
    verdictDecoder c.toJson.canonical = .ok c.verdict := by
  have hk := kept_canonicalOf hf
  obtain ⟨w, hw, hd⟩ := Option.map_eq_some_iff.mp hk.verdict
  exact (Record.ofMembers_required_of_nodup hk.distinct hw).trans hd

end CaseReport

/-! ### Counts -/

namespace Summary

/-- How many of the verdicts fail with this kind of fault. -/
def failures (verdicts : List Verdict) (f : Fault) : Nat :=
  verdicts.countP fun v => !v.passed && v.fault = some f

/-- Members in which the counts of these verdicts are found, with the kinds of fault that occur. -/
structure Recounted (verdicts : List Verdict) (found : Members) : Prop where
  names : found.keys.Perm ["total", "passed", "failed", "faults"]
  total : found.get? "total" = some (.ofNat verdicts.length)
  passed : found.get? "passed" = some (.ofNat (verdicts.countP (·.passed)))
  failed : found.get? "failed" = some (.ofNat (verdicts.countP (!·.passed)))
  faults : ∃ faults : Members, found.get? "faults" = some (.object faults) ∧
    faults.keys.Nodup ∧ (∀ key ∈ faults.keys, ∃ f : Fault, f.name = key) ∧
    ∀ f : Fault, faults.get? f.name =
      if failures verdicts f = 0 then none else some (.ofNat (failures verdicts f))

theorem failures_map (cases : List CaseReport) (f : Fault) :
    failures (cases.map (·.verdict)) f = countFault cases f :=
  List.countP_map

/-- The members of the object that counts the kinds of fault. -/
def faultMembers (cases : List CaseReport) : Members :=
  (occurring (countFault cases) Fault.all).map fun (f, n) => (f.name, .ofNat n)

theorem mem_faultMembers {cases : List CaseReport} {key : String} {w : Json} :
    (key, w) ∈ faultMembers cases ↔
      ∃ f : Fault, f.name = key ∧ countFault cases f ≠ 0 ∧ w = .ofNat (countFault cases f) := by
  simp only [faultMembers, List.mem_map, Prod.mk.injEq, Prod.exists, mem_occurring]
  constructor
  · rintro ⟨f, _, ⟨_, rfl, hn⟩, rfl, rfl⟩
    exact ⟨f, rfl, hn, rfl⟩
  · rintro ⟨f, rfl, hn, rfl⟩
    exact ⟨f, _, ⟨f.mem_all, rfl, hn⟩, rfl, rfl⟩

theorem nodup_faultMembers (cases : List CaseReport) : (faultMembers cases).keys.Nodup := by
  have hkinds := nodup_occurring (countFault cases) Fault.nodup_all
  simpa [Members.keys, faultMembers, Function.comp_def] using hkinds.map Fault.name_injective

theorem get?_faultMembers (cases : List CaseReport) (f : Fault) :
    (faultMembers cases).get? f.name =
      if countFault cases f = 0 then none else some (.ofNat (countFault cases f)) := by
  refine Option.ext fun w => ?_
  rw [Members.get?_eq_some_iff (nodup_faultMembers cases), mem_faultMembers]
  simp only [Option.ite_none_left_eq_some, Option.some.injEq]
  constructor
  · rintro ⟨g, hg, hn, rfl⟩
    obtain rfl := Fault.name_injective hg
    exact ⟨hn, rfl⟩
  · rintro ⟨hn, rfl⟩
    exact ⟨f, rfl, hn, rfl⟩

/-- The members of a summary. -/
def members (cases : List CaseReport) : Members :=
  [("total", .ofNat cases.length), ("passed", .ofNat (cases.countP (·.passed))),
    ("failed", .ofNat (cases.countP (!·.passed))), ("faults", .object (faultMembers cases))]

theorem toJson_ofCases (cases : List CaseReport) :
    (ofCases cases).toJson = .object (members cases) := by
  rw [ofCases_eq]
  rfl

theorem nodup_members (cases : List CaseReport) : (members cases).keys.Nodup := by
  simp [members, Members.keys]

theorem recounted_canonicalOf (cases : List CaseReport) :
    Recounted (cases.map (·.verdict)) (canonicalOf (members cases)) := by
  have hget := Json.get?_canonicalOf (nodup_members cases)
  have hfaults := Json.get?_canonicalOf (nodup_faultMembers cases)
  refine ⟨Json.keys_canonicalOf_perm (nodup_members cases), ?_, ?_, ?_,
    canonicalOf (faultMembers cases), hget "faults", Json.nodup_canonicalOf _, ?_, ?_⟩
  · rw [hget, List.length_map]
    rfl
  · rw [hget, List.countP_map]
    rfl
  · rw [hget, List.countP_map]
    rfl
  · intro key hk
    have hk := (Json.keys_canonicalOf_perm (nodup_faultMembers cases)).mem_iff.mp hk
    obtain ⟨m, hm, rfl⟩ := List.mem_map.mp hk
    obtain ⟨f, hf, _⟩ := mem_faultMembers.mp hm
    exact ⟨f, hf⟩
  · intro f
    rw [hfaults, get?_faultMembers, failures_map]
    split <;> rfl

theorem fits_toJson {cases : List CaseReport} (hl : cases.length < UInt64.size) :
    Json.Fits (limit + 2) (ofCases cases).toJson := by
  have hcount : ∀ p : CaseReport → Bool, cases.countP p < UInt64.size := fun p =>
    Nat.lt_of_le_of_lt List.countP_le_length hl
  have hfaults : Json.Fits (limit + 1) (.object (faultMembers cases)) := by
    refine .object fun m hm => ?_
    obtain ⟨f, _, _, hw⟩ := mem_faultMembers.mp hm
    rw [hw]
    exact Json.fits_ofNat (hcount _)
  rw [toJson_ofCases]
  refine .object ?_
  simp only [members, List.forall_mem_cons]
  exact ⟨Json.fits_ofNat hl, Json.fits_ofNat (hcount _), Json.fits_ofNat (hcount _), hfaults, nofun⟩

end Summary

/-! ### The document -/

namespace Report

/-- A report whose numbers have 64 bits, as do the lengths of lists. -/
structure Fits (r : Report) : Prop where
  length : r.cases.length < UInt64.size
  cases : ∀ c ∈ r.cases, c.Fits

variable {r : Report}

def members (r : Report) : Members :=
  [("run_id", .string r.runId), ("target", .string r.target), ("started_at", .string r.startedAt),
    ("finished_at", .string r.finishedAt), ("summary", r.summary.toJson),
    ("cases", .array (r.cases.map CaseReport.toJson))]

theorem nodup_members (r : Report) : r.members.keys.Nodup := by
  simp [members, Members.keys]

theorem get?_summary (r : Report) : (canonicalOf r.members).get? "summary" =
    some (.object (canonicalOf (Summary.members r.cases))) :=
  (Json.get?_canonicalOf r.nodup_members "summary").trans
    (congrArg (fun j => some (Json.canonical j)) (Summary.toJson_ofCases r.cases))

theorem fits_toJson (hf : r.Fits) : Json.Fits (limit + 5) r.toJson := by
  have hcases : Json.Fits (limit + 4) (.array (r.cases.map CaseReport.toJson)) :=
    .array (List.forall_mem_map.mpr fun c hc => CaseReport.fits_toJson (hf.cases c hc))
  refine .object ?_
  simp only [List.forall_mem_cons]
  exact ⟨.string _, .string _, .string _, .string _, Summary.fits_toJson hf.length, hcases, nofun⟩

/-- The elements of `cases` are the cases, and their verdicts those of the cases. -/
theorem forall₂_kept (hf : r.Fits) :
    List.Forall₂ (fun c item => ∃ found, item = Json.object found ∧ c.Kept found) r.cases
      (Json.canonicalItems (r.cases.map CaseReport.toJson)) := by
  rw [Json.canonicalItems_eq_map, List.map_map, List.forall₂_map_right_iff, List.forall₂_same]
  exact fun c hc => ⟨_, rfl, CaseReport.kept_canonicalOf (hf.cases c hc)⟩

theorem mapM_verdicts (hf : r.Fits) :
    (Json.canonicalItems (r.cases.map CaseReport.toJson)).mapM CaseReport.verdictDecoder =
      .ok (r.cases.map (·.verdict)) := by
  rw [Json.canonicalItems_eq_map, List.map_map, List.mapM_map]
  exact Outcome.mapM_eq_ok_map fun c hc => CaseReport.verdictDecoder_canonical (hf.cases c hc)

/-- The document of a report holds every case as it was, in order, and counts that are those of the
verdicts found in it. Verdicts, and what they extract, are decoded from what they were encoded to,
in memory or in a text. -/
theorem reportJson_read_back (hf : r.Fits) :
    (∃ (document : Members) (items : List Json) (summary : Members),
      Json.read (Console.reportJson r) = .ok (.object document) ∧
      document.get? "cases" = some (.array items) ∧
      List.Forall₂ (fun c item => ∃ found, item = Json.object found ∧ c.Kept found) r.cases items ∧
      document.get? "summary" = some (.object summary) ∧
      ∃ verdicts, items.mapM CaseReport.verdictDecoder = .ok verdicts ∧
        verdicts = r.cases.map (·.verdict) ∧ Summary.Recounted verdicts summary) ∧
    (∀ v : Verdict, v.Fits → Verdict.decoder v.toJson = .ok v ∧
      ∃ w, Json.read v.toJson.pretty = .ok w ∧ Verdict.decoder w = .ok v) ∧
    ∀ e : Extracted, e.Fits → Extracted.decoder e.toJson = .ok e ∧
      ∃ w, Json.read e.toJson.pretty = .ok w ∧ Extracted.decoder w = .ok e := by
  have hget := Json.get?_canonicalOf r.nodup_members
  exact ⟨⟨canonicalOf r.members, _, _, Json.read_pretty (fits_toJson hf), hget "cases",
    forall₂_kept hf, r.get?_summary, _, mapM_verdicts hf, rfl,
    Summary.recounted_canonicalOf r.cases⟩,
    fun v => Verdict.decoder_encoded, fun e => Extracted.decoder_encoded⟩

/-- A report with quotation marks, a line feed, a control character and an emoji. -/
def oddReport : Report where
  runId := "r"
  target := "http://127.0.0.1:9001"
  startedAt := "t"
  finishedAt := "t"
  cases := [
    ⟨⟨.chat, .gemini, some (.group "\"g\""), some .text, "Text -> /\"g\"\n", "POST", "u\x01"⟩,
      .pass "Text: 😀..." (.text "😀"), 7⟩,
    ⟨⟨.models, .openAI, none, none, "list", "GET", "u"⟩, .fail .shape "a\\b", 0⟩]

theorem fits_oddReport : oddReport.Fits := by
  refine ⟨(by decide : 2 < UInt64.size), fun c hc => ?_⟩
  simp only [oddReport, List.mem_cons, List.not_mem_nil, or_false] at hc
  obtain rfl | rfl := hc
  · exact ⟨(by decide : 7 < UInt64.size), by simp [Verdict.Fits, Verdict.pass, Extracted.Fits]⟩
  · exact ⟨(by decide : 0 < UInt64.size), by simp [Verdict.Fits, Verdict.fail]⟩

theorem reportJson_read_back_odd : oddReport.Fits ∧ ∃ (document : Members) (items : List Json),
    Json.read (Console.reportJson oddReport) = .ok (.object document) ∧
    document.get? "cases" = some (.array items) ∧
    items.mapM CaseReport.verdictDecoder = .ok (oddReport.cases.map (·.verdict)) := by
  obtain ⟨⟨document, items, summary, hread, hcases, _, _, verdicts, hv, rfl, _⟩, _⟩ :=
    reportJson_read_back fits_oddReport
  exact ⟨fits_oddReport, document, items, hread, hcases, hv⟩

end Report

end Conformance
