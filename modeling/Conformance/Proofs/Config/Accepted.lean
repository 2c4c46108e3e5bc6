import Conformance.Config.Check
import Conformance.Proofs.Url.Extend
import Conformance.Proofs.Url.Normal
import Conformance.Sweep.Plan

/-! What is known of a configuration that a run may start with. -/
namespace Conformance.Config

open Outcome
open Url (Host Normal Web EndsInDigit)

variable {c : Config} {u : Url} {host : Host}

theorem require_eq_ok {condition : Bool} {e : ConfigError} :
    require condition e = .ok () ↔ condition = true := by
  cases condition with
  | true => simp [require]
  | false => simp [require]

theorem isWebScheme_iff (scheme : List Char) : isWebScheme scheme = true ↔ Web scheme := by
  simp [isWebScheme, Web]

theorem checkUrl_eq_ok {t : Target} :
    checkUrl t = .ok () ↔ ∃ u, Url.read t.baseUrl = .ok u ∧ Web u.scheme := by
  rw [checkUrl]
  cases hr : Url.read t.baseUrl with
  | error cause => simp
  | ok u => simp [require_eq_ok, isWebScheme_iff]

/-- Everything that is asked of a configuration. -/
theorem check_eq_ok : c.check = .ok () ↔
    c.target.port ≠ 0 ∧ Text.isBlankText c.target.host = false ∧ c.target.timeoutSeconds ≠ 0 ∧
    (∀ f ∈ c.models.fields, Text.isBlankText f.2 = false) ∧ '/' ∉ c.models.groupName.toList ∧
    (∃ u, Url.read c.baseUrl = .ok u ∧ Web u.scheme) ∧ c.logging.check = .ok () := by
  have hunit : ∀ {x : Except ConfigError Unit} {p : Prop}, (∃ a, x = .ok a ∧ p) ↔ x = .ok () ∧ p :=
    ⟨fun ⟨_, h, hp⟩ => ⟨h, hp⟩, fun ⟨h, hp⟩ => ⟨(), h, hp⟩⟩
  simp only [check, bind_eq_ok, hunit, require_eq_ok, forM_eq_ok, checkUrl_eq_ok]
  simp [baseUrl]

/-- The address of the gateway. -/
structure Gateway (c : Config) (u : Url) (host : Host) : Prop where
  read : Url.read c.baseUrl = .ok u
  normal : Normal u host

theorem gateway_of_check (h : c.check = .ok ()) : ∃ u host, c.Gateway u host := by
  obtain ⟨_, _, _, _, _, ⟨u, hr, hw⟩, _⟩ := check_eq_ok.mp h
  obtain ⟨host, hn⟩ := Normal.of_read hr hw
  exact ⟨u, host, hr, hn⟩

theorem toList_baseUrl (c : Config) : c.baseUrl.toList = c.target.scheme.toList ++
    ':' :: '/' :: '/' :: (c.target.host.toList ++ ':' :: Nat.toDigits 10 c.target.port) := by
  simp [baseUrl, Target.baseUrl, String.toList_append]

theorem endsInDigit_baseUrl (c : Config) : EndsInDigit c.baseUrl := by
  obtain ⟨digits, d, hd⟩ := (Nat.toDigits 10 c.target.port).eq_nil_or_concat.resolve_left
    Nat.toDigits_ne_nil
  refine ⟨c.target.scheme.toList ++
    ':' :: '/' :: '/' :: (c.target.host.toList ++ ':' :: digits), d, ?_, ?_⟩
  · rw [toList_baseUrl, hd]
    simp
  · refine Text.isDigit_of_mem_toDigits (n := c.target.port) ?_
    rw [hd]
    simp

/-- Where the gateway is if nothing else is said. -/
def localGateway : Url :=
  ⟨"http".toList, [], [], some (.domain "localhost".toList), some 11435, .segments [[]], none, none⟩

theorem readHost_local : Url.readHost "localhost".toList = .ok (.domain "localhost".toList) :=
  Url.readHost_plain (by decide) (List.all_eq_true.mp (by decide)) (by decide) (by decide)

theorem read_localGateway : Url.read "http://localhost:11435" = .ok localGateway := by
  have hscheme : Url.cutScheme (Url.significant "http://localhost:11435") =
      some ("http".toList, "//localhost:11435".toList) := by decide
  have hauthority : Url.cutAuthority (Url.Pieces.cut "//localhost:11435".toList).authority =
      (([], []), "localhost".toList, ":11435".toList) := by decide
  have hport : Url.readPort "http".toList (":11435".toList.drop 1) = .ok (some 11435) := by decide
  exact Url.read_of_parts hscheme (by decide) hauthority (by decide) readHost_local hport

/-- What is set by default may be used. -/
theorem check_default : ({} : Config).check = .ok () := by
  refine check_eq_ok.mpr ⟨by decide, by decide, by decide, by decide, by decide, ?_, ?_⟩
  · exact ⟨localGateway, read_localGateway, Or.inl rfl⟩
  · decide

theorem gateway_default : ({} : Config).Gateway localGateway (.domain "localhost".toList) := by
  obtain ⟨u, host, hg⟩ := gateway_of_check check_default
  obtain rfl : u = localGateway := Except.ok.inj (hg.read.symm.trans read_localGateway)
  obtain rfl : .domain "localhost".toList = host := Option.some.inj hg.normal.named
  exact hg

end Conformance.Config
