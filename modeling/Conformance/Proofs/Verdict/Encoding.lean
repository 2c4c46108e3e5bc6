import Conformance.Proofs.Json.Canonical
import Conformance.Proofs.Json.Fields
import Conformance.Proofs.Json.Written
import Conformance.Verdict.Basic

/-! Verdicts are decoded from what they were encoded to, in memory or in a text. -/
namespace Conformance

open Json (Decoder Members Record canonicalOf)

theorem Fault.decoder_name (f : Fault) : Fault.decoder (.string f.name) = .ok f := by
  cases f <;> rfl

namespace Extracted

variable {e : Extracted} {limit : Nat}

/-- A count has 64 bits. -/
def Fits : Extracted → Prop
  | count n => n < UInt64.size
  | _ => True

/-- What stands beside the kind. -/
def payload : Extracted → Json
  | text content => .string content
  | toolCall tool => .string tool
  | count n => .ofNat n

/-- The members that are written. -/
def members (e : Extracted) : Members := [("kind", .string e.kind), ("value", e.payload)]

theorem toJson_eq (e : Extracted) : e.toJson = .object e.members := by
  cases e <;> rfl

theorem nodup_members (e : Extracted) : e.members.keys.Nodup := by
  simp [members, Members.keys]

theorem ofKind_payload (hf : e.Fits) : ofKind e.kind e.payload = .ok e := by
  cases e with
  | text content => rfl
  | toolCall tool => rfl
  | count n =>
    have hn : 0 ≤ (n : Int) ∧ (n : Int) < UInt64.size :=
      ⟨Int.natCast_nonneg n, Int.ofNat_lt.mpr hf⟩
    have hread : Decoder.unsigned UInt64.size "usize" (.ofNat n) = .ok n := by
      rw [Json.ofNat, Decoder.unsigned, if_pos hn, Int.toNat_natCast]
    change (Decoder.unsigned UInt64.size "usize" (.ofNat n)).map count = _
    rw [hread]
    rfl

/-- A kind and a value are all that is looked at. -/
theorem decoder_of_members {found : Members} (hf : e.Fits)
    (hk : found.get? "kind" = some (.string e.kind)) (hv : found.get? "value" = some e.payload) :
    decoder (.object found) = .ok e := by
  have hkind : Decoder.variant kinds (.string e.kind) = .ok e.kind := by
    cases e <;> rfl
  simp [decoder, hk, hv, hkind, ofKind_payload hf, bind, Except.bind]

theorem decoder_toJson (hf : e.Fits) : decoder e.toJson = .ok e := by
  rw [toJson_eq]
  exact decoder_of_members hf rfl rfl

theorem decoder_canonical (hf : e.Fits) : decoder e.toJson.canonical = .ok e := by
  have hpayload : e.payload.canonical = e.payload := by
    cases e <;> rfl
  rw [toJson_eq, Json.canonical_object]
  refine decoder_of_members hf ?_ ?_
  · rw [Json.get?_canonicalOf e.nodup_members]
    rfl
  · rw [Json.get?_canonicalOf e.nodup_members]
    exact congrArg some hpayload

theorem fits_toJson (hf : e.Fits) : Json.Fits (limit + 1) e.toJson := by
  have hpayload : Json.Fits limit e.payload := by
    cases e with
    | text content => exact .string content
    | toolCall tool => exact .string tool
    | count n => exact Json.fits_ofNat hf
  rw [toJson_eq]
  refine .object ?_
  simp only [members, List.forall_mem_cons]
  exact ⟨.string _, hpayload, nofun⟩

/-- Nothing is lost, neither in memory nor in a text. -/
theorem decoder_encoded (hf : e.Fits) : decoder e.toJson = .ok e ∧
    ∃ w, Json.read e.toJson.pretty = .ok w ∧ decoder w = .ok e :=
  ⟨decoder_toJson hf, _, Json.read_pretty (fits_toJson hf), decoder_canonical hf⟩

end Extracted

namespace Verdict

variable {v : Verdict} {limit : Nat}

def Fits (v : Verdict) : Prop := ∀ e ∈ v.extracted, e.Fits

theorem nodup_members (v : Verdict) : Members.keys v.members |>.Nodup := by
  obtain ⟨passed, message, fault, extracted⟩ := v
  cases fault <;> cases extracted <;> simp [members, Members.keys]

/-- Fault and extraction may be missing, and other members are passed over. -/
theorem decoder_of_members {found : Members} (hn : found.keys.Nodup)
    (hp : found.get? "passed" = some (.bool v.passed))
    (hm : found.get? "message" = some (.string v.message))
    (hf : found.get? "fault" = v.fault.map fun f => .string f.name)
    (hx : (found.get? "extracted").elim (.ok none) (Decoder.nullable Extracted.decoder) =
      .ok v.extracted) : decoder (.object found) = .ok v := by
  have hfault : (Record.optional "fault" Fault.decoder).ofMembers found = .ok v.fault := by
    rw [Record.ofMembers_optional hn, hf]
    cases v.fault with
    | none => rfl
    | some f => exact congrArg (·.map some) f.decoder_name
  have hextracted : (Record.optional "extracted" Extracted.decoder).ofMembers found =
      .ok v.extracted := by
    rw [Record.ofMembers_optional hn, hx]
  have hpassed : (Record.required "passed" Decoder.bool).ofMembers found = .ok v.passed :=
    Record.ofMembers_required_of_nodup hn hp
  have hmessage : (Record.required "message" Decoder.string).ofMembers found = .ok v.message :=
    Record.ofMembers_required_of_nodup hn hm
  have hall := Record.ofMembers_and.mpr ⟨Record.ofMembers_and.mpr
    ⟨Record.ofMembers_and.mpr ⟨hpassed, hmessage⟩, hfault⟩, hextracted⟩
  change Record.ofMembers _ found = _
  rw [Record.ofMembers_map, hall]
  rfl

theorem get?_extracted (v : Verdict) :
    Members.get? v.members "extracted" = v.extracted.map Extracted.toJson := by
  obtain ⟨passed, message, fault, extracted⟩ := v
  cases fault <;> cases extracted <;> rfl

theorem get?_fault (v : Verdict) :
    Members.get? v.members "fault" = v.fault.map fun f => .string f.name := by
  obtain ⟨passed, message, fault, extracted⟩ := v
  cases fault <;> cases extracted <;> rfl

theorem nullable_extracted {e : Extracted} {w : Json} (hd : Extracted.decoder w = .ok e) :
    Decoder.nullable Extracted.decoder w = .ok (some e) := by
  cases w with
  | null => cases hd
  | _ => exact congrArg (·.map some) hd

theorem decoder_toJson (hf : v.Fits) : decoder v.toJson = .ok v := by
  refine decoder_of_members v.nodup_members rfl rfl v.get?_fault ?_
  rw [get?_extracted]
  cases hx : v.extracted with
  | none => rfl
  | some e => exact nullable_extracted (Extracted.decoder_toJson (hf e hx))

theorem decoder_canonical (hf : v.Fits) : decoder v.toJson.canonical = .ok v := by
  have hget := Json.get?_canonicalOf v.nodup_members
  rw [toJson, Json.canonical_object]
  refine decoder_of_members (Json.nodup_canonicalOf _) (hget "passed") (hget "message") ?_ ?_
  · rw [hget, get?_fault]
    cases v.fault <;> rfl
  · rw [hget, get?_extracted]
    cases hx : v.extracted with
    | none => rfl
    | some e => exact nullable_extracted (Extracted.decoder_canonical (hf e hx))

theorem fits_toJson (hf : v.Fits) : Json.Fits (limit + 2) v.toJson := by
  refine .object ?_
  obtain ⟨passed, message, fault, extracted⟩ := v
  have hfault : ∀ m ∈ (fault.map fun f => ("fault", Json.string f.name)).toList,
      Json.Fits (limit + 1) m.2 := by
    cases fault with
    | none => nofun
    | some f => exact List.forall_mem_singleton.mpr (.string _)
  have hextracted : ∀ m ∈ (extracted.map fun e => ("extracted", e.toJson)).toList,
      Json.Fits (limit + 1) m.2 := by
    cases extracted with
    | none => nofun
    | some e => exact List.forall_mem_singleton.mpr (Extracted.fits_toJson (hf e rfl))
  simp only [members, List.cons_append, List.nil_append, List.forall_mem_cons,
    List.forall_mem_append]
  exact ⟨.bool _, .string _, hfault, hextracted⟩

theorem decoder_encoded (hf : v.Fits) : decoder v.toJson = .ok v ∧
    ∃ w, Json.read v.toJson.pretty = .ok w ∧ decoder w = .ok v :=
  ⟨decoder_toJson hf, _, Json.read_pretty (fits_toJson hf), decoder_canonical hf⟩

end Verdict

end Conformance
