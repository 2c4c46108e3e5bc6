import Conformance.Proofs.Config.Naming
import Conformance.Proofs.Sweep.Origin
import Conformance.Proofs.Url.Ideograph

/-! Which addresses of a run can be read. Those of Gemini were read once to put the key in, and are
read again from what was written then. -/
namespace Conformance

open Url (Host spread longestLabel)

variable {c : Config} {u v : Url} {host : Host} {plan : Plan} {k : Case}

namespace Config

/-- What is known of the address of a case. It can be read, and is then the gateway's, unless the
key had to be put into it and the host cannot be read as it is written. The key is never left
out. -/
structure Reached (c : Config) (u : Url) (host : Host) (k : Case) : Prop where
  read_iff : (∃ v, Url.read k.request.url = .ok v) ↔ (k.id.protocol = .gemini → host.IsShort)
  origin : ∀ v, Url.read k.request.url = .ok v → v.SameOrigin u
  keyed : k.id.protocol = .gemini → ∃ s v, Url.read (c.baseUrl ++ s) = .ok v ∧ v.SameOrigin u ∧
    k.request.url = (v.withPair "key" c.target.apiKey).text
  refused : ∀ cause : Url.Malformed, Transport.prepare k.request =
    .error (.request ("builder error: " ++ cause.message)) →
      k.id.protocol = .gemini ∧ ¬ host.IsShort
  sent : ∀ d, Transport.prepare k.request = .ok d → d.url.SameOrigin u

/-- Whether the address of a case can be read. -/
theorem Gateway.read_case_iff (hg : c.Gateway u host) (hk : k ∈ plan.cases c) :
    (∃ v, Url.read k.request.url = .ok v) ↔ (k.id.protocol = .gemini → host.IsShort) := by
  obtain ⟨s, hs, hurl⟩ := Plan.case_addressed hk
  obtain ⟨p, hp, hn⟩ := hg.read_append hs
  obtain ⟨cs, hhost⟩ := hg.normal.readHost_of_read hg.read
  by_cases hgemini : k.id.protocol = .gemini
  · -- of an address that was written nothing but the host can fail to be read
    rw [hurl, hgemini, address_gemini, read_keyed hp hn]
    simp only [forall_const, ← Url.readHost_again hhost]
    constructor
    · rintro ⟨v, hv⟩
      obtain ⟨host', hr, _⟩ := Outcome.map_eq_ok.mp hv
      rw [hr, Url.readHost_text hn.written hr]
    · intro hr
      rw [hr]
      exact ⟨_, rfl⟩
  · rw [hurl, c.address_plain hgemini]
    exact ⟨fun _ h => absurd h hgemini, fun _ => ⟨_, hp⟩⟩

theorem Gateway.reached (hg : c.Gateway u host) (hk : k ∈ plan.cases c) : c.Reached u host k where
  read_iff := hg.read_case_iff hk
  origin _ hv := hg.sameOrigin_of_case hk hv
  keyed hgemini := by
    obtain ⟨s, hs, hurl⟩ := Plan.case_addressed hk
    obtain ⟨p, hp, _⟩ := hg.read_append hs
    rw [hgemini, address_gemini, keyed_eq hp] at hurl
    exact ⟨s, _, hp, ⟨rfl, rfl, rfl, rfl, rfl⟩, hurl⟩
  refused cause h := by
    by_contra hn
    obtain ⟨v, hv⟩ := (hg.read_case_iff hk).mpr fun hgemini => by
      by_contra hlong
      exact hn ⟨hgemini, hlong⟩
    exact Transport.unread_of_prepare h v hv
  sent _ hd := hg.sameOrigin_of_delivery hk hd

/-- No alias, group name or key leads a request away from the gateway or makes an address that
cannot be read. That takes a host with a label that is encoded in too many characters, and then it is
the addresses of Gemini that cannot be read. -/
theorem addresses_reached (h : c.check = .ok ()) : ∃ u host, Url.read c.baseUrl = .ok u ∧
    u.host = some host ∧ ∀ (plan : Plan) (k : Case), k ∈ plan.cases c → c.Reached u host k := by
  obtain ⟨u, host, hg⟩ := gateway_of_check h
  exact ⟨u, host, hg.read, hg.normal.named, fun plan k hk => hg.reached hk⟩

/-- Names and a key that look like other parts of an address. -/
def deceptive : Config where
  target := { apiKey := "&@evil/" }
  models := { default := "/../@evil", groupName := "@evil:80?#", group := "\\\\evil" }

/-- All of its requests are for the gateway that is set by default. -/
theorem addresses_reached_deceptive : deceptive.check = .ok () ∧
    ∀ k ∈ Plan.everything.cases deceptive, ∃ v, Url.read k.request.url = .ok v ∧
      v.host = some (.domain "localhost".toList) ∧ v.port = some 11435 := by
  have hread : Url.read deceptive.baseUrl = .ok localGateway := read_localGateway
  have hcheck : deceptive.check = .ok () :=
    check_eq_ok.mpr ⟨by decide, by decide, by decide, by decide, by decide,
      ⟨localGateway, hread, Or.inl rfl⟩, by decide⟩
  obtain ⟨u, host, hu, hhost, hall⟩ := addresses_reached hcheck
  obtain rfl : u = localGateway := Except.ok.inj (hu.symm.trans hread)
  obtain rfl : .domain "localhost".toList = host := Option.some.inj hhost
  have hshort : (Host.domain "localhost".toList).IsShort := by
    have hsplit : Text.splitAt '.' "localhost".toList = ["localhost".toList] := by decide
    intro part hp encoding he
    rw [hsplit, List.mem_singleton] at hp
    rw [hp] at he
    cases he
  refine ⟨hcheck, fun k hk => ?_⟩
  have hr := hall .everything k hk
  obtain ⟨v, hv⟩ := hr.read_iff.mpr fun _ => hshort
  exact ⟨v, hv, (hr.origin v hv).host, (hr.origin v hv).port⟩

/-! ### A host that is read only once -/

/-- A gateway that has so many ideographs for its host. -/
def wide (n : Nat) : Config where
  target := { host := String.ofList (spread n), apiKey := "k" }

variable {n : Nat}

theorem toList_host_wide : (wide n).target.host.toList = spread n := String.toList_ofList

theorem not_mem_host_wide (hn : n ≤ longestLabel) {d : Char} (hd : d.toNat < 0x80) :
    d ∉ (wide n).target.host.toList := by
  rw [toList_host_wide]
  exact Url.not_mem_ideographs (Url.spread_ideographs hn) (Nat.lt_trans hd (by decide))

theorem isPlain_wide (hn : n ≤ longestLabel) : (wide n).target.IsPlain where
  scheme := Or.inl (show "http".toList.map Char.toLower = _ by decide)
  host d hd := by
    have hall : ∀ d ∈ Target.hostDelimiters, d.toNat < 0x80 :=
      List.all_iff_forall_prop.mp (by decide)
    exact not_mem_host_wide hn (hall d hd)

/-- Its address is read. -/
theorem gateway_wide (hn : n ≤ longestLabel) (hne : spread n ≠ []) : ∃ u, (wide n).Gateway u
    (.domain (Url.encodedMark ++ Url.Punycode.encode (spread n))) := by
  have hplain := isPlain_wide hn
  have hscheme : Url.cutScheme (Url.significant (wide n).baseUrl) = some ("http".toList,
      '/' :: '/' :: ((wide n).target.host.toList ++
        ':' :: Nat.toDigits 10 (wide n).target.port)) := by
    have hhttp : Url.cutScheme ("http".toList ++ [':']) = some ("http".toList, []) := by decide
    have happend := Url.cutScheme_append hhttp
      ('/' :: '/' :: ((wide n).target.host.toList ++ ':' :: Nat.toDigits 10 (wide n).target.port))
    rw [List.append_assoc] at happend
    rw [significant_baseUrl hplain, toList_baseUrl]
    exact happend
  have hhost : Url.cutHost false ((wide n).target.host.toList ++
      ':' :: Nat.toDigits 10 (wide n).target.port) =
        (spread n, ':' :: Nat.toDigits 10 (wide n).target.port) := by
    rw [Url.cutHost_append (not_mem_host_wide hn (by decide)) (not_mem_host_wide hn (by decide))
      (.inr (not_mem_host_wide hn (by decide))), toList_host_wide]
    exact Prod.ext (List.append_nil _) rfl
  have hauthority : Url.cutAuthority (Url.Pieces.cut ('/' :: '/' ::
      ((wide n).target.host.toList ++ ':' :: Nat.toDigits 10 (wide n).target.port))).authority =
        (([], []), spread n, ':' :: Nat.toDigits 10 (wide n).target.port) := by
    rw [cut_authority hplain]
    exact (cutAuthority_plain hplain).trans (congrArg _ hhost)
  have hport : Url.readPort "http".toList
      ((':' :: Nat.toDigits 10 (wide n).target.port).drop 1) = .ok (some 11435) := by
    have hset : (wide n).target.port = 11435 := rfl
    rw [hset]
    decide
  have hread := Url.read_of_parts hscheme (Or.inl rfl) hauthority hne
    (Url.readHost_ideographs (Url.spread_ideographs hn) hne (by simpa using hn)) hport
  obtain ⟨host, hnormal⟩ := Url.Normal.of_read hread (Or.inl rfl)
  obtain rfl := Option.some.inj hnormal.named
  exact ⟨_, hread, hnormal⟩

theorem check_wide (hn : n ≤ longestLabel) (hne : spread n ≠ []) : (wide n).check = .ok () := by
  obtain ⟨u, hg⟩ := gateway_wide hn hne
  have hblank : Text.isBlankText (wide n).target.host = false := by
    obtain ⟨c, hc⟩ := List.exists_mem_of_ne_nil (spread n) hne
    have hfirst := (Url.spread_ideographs hn c hc).first
    refine List.all_eq_false.mpr ⟨c, by rwa [toList_host_wide], ?_⟩
    simp only [Text.isBlank, Bool.or_eq_true, Bool.and_eq_true, decide_eq_true_eq]
    omega
  obtain ⟨hport, _, htimeout, hfields, hgroup, _, hlogging⟩ := check_eq_ok.mp check_default
  exact check_eq_ok.mpr
    ⟨hport, hblank, htimeout, hfields, hgroup, ⟨u, hg.read, hg.normal.web⟩, hlogging⟩

/-- It may be used, and no address of Gemini can be read. -/
theorem wide_unread : (wide 800).check = .ok () ∧ ∃ k ∈ Plan.everything.cases (wide 800),
    k.id.protocol = .gemini ∧ ∀ v, Url.read k.request.url ≠ .ok v := by
  have hn : 800 ≤ longestLabel := by decide
  have hne : spread 800 ≠ [] := List.ne_nil_of_length_pos (by rw [Url.length_spread]; decide)
  obtain ⟨u, hg⟩ := gateway_wide hn hne
  have hk : (wide 800).chatCase ⟨.gemini, .default, (wide 800).modelOn .default, .text⟩ ∈
      Plan.everything.cases (wide 800) := by
    refine List.mem_flatMap.mpr ⟨.chat, by decide, ?_⟩
    refine List.mem_flatMap.mpr ⟨.gemini, by decide, ?_⟩
    exact List.mem_flatMap.mpr ⟨.default, List.mem_cons_self, List.mem_cons_self⟩
  refine ⟨check_wide hn hne, _, hk, rfl, fun v hv => ?_⟩
  have hshort := (hg.read_case_iff hk).mp ⟨v, hv⟩ rfl
  exact Url.not_isShort_spread hn (by decide) hshort

end Config

end Conformance
