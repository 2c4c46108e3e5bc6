import Conformance.Proofs.Sweep.Origin

/-! Whom the settings of a gateway name, and whom its address names. The address is put together
as text, so that a host may hold more than a host; where it does, the address is of another. -/
namespace Conformance.Config

open Url (Host Web isLineSpace)

variable {c : Config} {t : Target} {u : Url} {host : Host}

namespace Target

/-- The address has the scheme, the host and the port that were set. -/
structure Serves (t : Target) (u : Url) : Prop where
  scheme : u.scheme = t.scheme.toList.map Char.toLower
  host : ∃ host, Url.readHost t.host.toList = .ok host ∧ u.host = some host
  port : u.effectivePort = some t.port

/-- Nothing else is in the address. -/
structure Names (t : Target) (u : Url) : Prop extends t.Serves u where
  userInfo : u.userInfo = []
  bare : u.Bare

/-- What ends a host, stands in front of one or does not count in one. -/
def hostDelimiters : List Char := ['/', '\\', '?', '#', '@', '\t', '\n', '\r']

/-- Settings that hold a web scheme and no delimiter of a host. -/
structure IsPlain (t : Target) : Prop where
  scheme : Web (t.scheme.toList.map Char.toLower)
  host : ∀ d ∈ hostDelimiters, d ∉ t.host.toList

theorem Serves.isPlain (h : t.Serves u) (hw : Web u.scheme) : t.IsPlain where
  scheme := h.scheme ▸ hw
  host := by
    intro d hd
    obtain ⟨host, hread, _⟩ := h.host
    have hall : ∀ d ∈ hostDelimiters, Url.isForbiddenInDomain d = true ∧
        Text.standsAlone d = true ∧ d ≠ '%' ∧ d ≠ '[' ∧ d ≠ ']' ∧ d ≠ ':' :=
      List.all_iff_forall_prop.mp (by decide +kernel)
    obtain ⟨hf, hs, hp, hb⟩ := hall d hd
    exact Url.not_mem_of_readHost hf hs hp hb hread

theorem IsPlain.scheme_chars (h : t.IsPlain) {d : Char} (hd : d ∈ t.scheme.toList) :
    0x20 < d.toNat ∧ d ≠ ':' := by
  have hlower : d.toLower ∈ "https".toList := by
    have hm : d.toLower ∈ t.scheme.toList.map Char.toLower := List.mem_map_of_mem hd
    obtain hw | hw := h.scheme
    · rw [hw] at hm
      exact List.Sublist.subset (by decide) hm
    · rwa [hw] at hm
  by_cases ha : d.toNat < 0x80
  · exact Url.ascii_forall (P := fun d => d.toLower ∈ "https".toList → 0x20 < d.toNat ∧ d ≠ ':')
      (by decide +kernel) ha hlower
  · refine ⟨by omega, ?_⟩
    rintro rfl
    exact ha (by decide)

theorem IsPlain.scheme_ne_nil (h : t.IsPlain) : t.scheme.toList ≠ [] := by
  intro he
  have hw := h.scheme
  rw [he] at hw
  exact absurd hw (by decide)

end Target

/-- All of a plain address counts. -/
theorem significant_baseUrl (h : c.target.IsPlain) :
    Url.significant c.baseUrl = c.baseUrl.toList := by
  refine Url.significant_eq_self ?_ ?_ ?_
  · intro d hd
    obtain ⟨first, more, hs⟩ := List.exists_cons_of_ne_nil h.scheme_ne_nil
    rw [toList_baseUrl, hs] at hd
    obtain rfl := Option.some.inj hd
    exact (h.scheme_chars (hs ▸ List.mem_cons_self)).1
  · intro d hd
    obtain ⟨front, last, hs, hl⟩ := c.endsInDigit_baseUrl
    rw [hs, List.getLast?_concat] at hd
    obtain rfl := Option.some.inj hd
    exact Url.visible_of_isDigit hl
  · intro d hd
    rw [toList_baseUrl] at hd
    simp only [List.mem_append, List.mem_cons] at hd
    obtain hd | rfl | rfl | rfl | hd | rfl | hd := hd
    · exact Url.isLineSpace_of_visible (h.scheme_chars hd).1
    · decide
    · decide
    · decide
    · refine Url.isLineSpace_eq_false.mpr ⟨?_, ?_, ?_⟩ <;>
        (rintro rfl; exact h.host _ (by decide) hd)
    · decide
    · exact Url.isLineSpace_of_visible (Url.visible_of_isDigit (Text.isDigit_of_mem_toDigits hd))

/-- All that stands behind the scheme of a plain address is host and port. -/
theorem cut_authority (h : c.target.IsPlain) :
    let authority := c.target.host.toList ++ ':' :: Nat.toDigits 10 c.target.port
    Url.Pieces.cut ('/' :: '/' :: authority) = ⟨authority, [], none, none⟩ := by
  intro authority
  have hend : ∀ d ∈ authority, Url.endsAuthority d = false := by
    intro d hd
    obtain hd | hd := List.mem_append.mp hd
    · refine Bool.eq_false_iff.mpr fun he => ?_
      simp only [Url.endsAuthority, List.contains_eq_mem, decide_eq_true_eq] at he
      exact h.host d (List.Sublist.subset (by decide) he) hd
    · obtain rfl | hd := List.mem_cons.mp hd
      · decide
      · exact Url.endsAuthority_of_isAuthorityChar
          (Url.isAuthorityChar_of_digit (Text.isDigit_of_mem_toDigits hd))
  have hne : authority ≠ [] := List.append_ne_nil_of_right_ne_nil _ (List.cons_ne_nil _ _)
  have hquery : '#' ∉ Url.marked '?' none := List.not_mem_nil
  have hcut := Url.cut_written hne hend (Or.inl rfl) ⟨List.not_mem_nil, List.not_mem_nil⟩ hquery none
  simpa [Url.marked] using hcut

theorem cutAuthority_plain (h : c.target.IsPlain) :
    let authority := c.target.host.toList ++ ':' :: Nat.toDigits 10 c.target.port
    Url.cutAuthority authority = (([], []), Url.cutHost false authority) := by
  intro authority
  have hat : '@' ∉ authority := by
    intro hm
    obtain hm | hm := List.mem_append.mp hm
    · exact h.host '@' (by decide) hm
    · obtain hc | hm := List.mem_cons.mp hm
      · exact absurd hc (by decide)
      · exact absurd (Text.isDigit_of_mem_toDigits hm) (by decide)
  rw [Url.cutAuthority, Url.cutUserInfo_none hat]
  rfl

/-- A plain address is of just what was set. -/
theorem names_of_isPlain (hr : Url.read c.baseUrl = .ok u) (hw : Web u.scheme)
    (h : c.target.IsPlain) : c.target.Names u := by
  obtain ⟨rest, v, hcut, hv, hu⟩ := Url.read_web_inv hr hw
  obtain ⟨name, hname, hcolon, hscheme⟩ := Url.cutScheme_spec hcut
  have hsplit : name = c.target.scheme.toList ∧ rest = '/' :: '/' ::
      (c.target.host.toList ++ ':' :: Nat.toDigits 10 c.target.port) := by
    rw [significant_baseUrl h, toList_baseUrl] at hname
    have hcut := congrArg (Text.cutAt ':') hname
    rw [Text.cutAt_append hcolon, Text.cutAt_append fun hm => (h.scheme_chars hm).2 rfl] at hcut
    simp only [Option.some.injEq, Prod.mk.injEq] at hcut
    exact ⟨hcut.1.symm, hcut.2.symm⟩
  obtain ⟨rfl, rfl⟩ := hsplit
  rw [cut_authority h] at hv hu
  obtain ⟨host, port, hhost, hport, rfl⟩ := Url.readAuthority_inv hw hv
  rw [cutAuthority_plain h] at hhost hport hu
  have hsplit := Url.cutHost_of_read Nat.toDigits_ne_nil
    (fun d hd => Text.isDigit_of_mem_toDigits hd) hhost hport
  rw [hsplit] at hhost hport
  have hnumber := Url.readPort_toDigits hport
  generalize u.scheme = scheme at *
  subst hu
  exact ⟨⟨hscheme, ⟨host, hhost, rfl⟩, hnumber⟩, rfl, rfl, rfl, rfl⟩

/-- The address of a gateway names what was set just where no delimiter is in it, and so does the
address of each request that goes out in a run. -/
theorem named_iff_isPlain (h : c.check = .ok ()) : ∃ u, Url.read c.baseUrl = .ok u ∧
    (c.target.Names u ↔ c.target.IsPlain) ∧
    ∀ (plan : Plan) (k : Case) (d : Transport.Delivery), k ∈ plan.cases c →
      Transport.prepare k.request = .ok d → (c.target.Serves d.url ↔ c.target.IsPlain) := by
  obtain ⟨u, host, hg⟩ := gateway_of_check h
  have hw := hg.normal.web
  refine ⟨u, hg.read, ⟨fun hn => hn.isPlain hw, names_of_isPlain hg.read hw⟩, ?_⟩
  intro plan k d hk hd
  have ho := hg.sameOrigin_of_delivery hk hd
  refine ⟨fun hs => hs.isPlain (ho.scheme ▸ hw), fun hp => ?_⟩
  have hn := names_of_isPlain hg.read hw hp
  have hport : d.url.effectivePort = u.effectivePort := by
    rw [Url.effectivePort, Url.effectivePort, ho.port, ho.scheme]
  exact ⟨ho.scheme.trans hn.scheme, ho.host.symm ▸ hn.host, hport.trans hn.port⟩

/-- The address that is set by default names what was set. -/
theorem named_iff_isPlain_default : ({} : Config).check = .ok () ∧ ({} : Config).target.IsPlain ∧
    ∃ u, Url.read ({} : Config).baseUrl = .ok u ∧ ({} : Config).target.Names u := by
  have hplain : ({} : Config).target.IsPlain := 
    ⟨by decide, List.all_iff_forall_prop.mp (by decide)⟩
  obtain ⟨u, hr, hn, _⟩ := named_iff_isPlain check_default
  exact ⟨check_default, hplain, u, hr, hn.mpr hplain⟩

/-- A gateway of which the host is set with a path behind it. -/
def hostWithPath : Config := { target := { host := "localhost/gw" } }

/-- It is at the usual port of its scheme, the port that was set being part of the path. -/
theorem read_hostWithPath : Url.read hostWithPath.baseUrl = .ok ⟨"http".toList, [], [],
    some (.domain "localhost".toList), none, .segments ["gw:11435".toList], none, none⟩ := by
  have hscheme : Url.cutScheme (Url.significant hostWithPath.baseUrl) =
      some ("http".toList, "//localhost/gw:11435".toList) := by decide
  have hauthority : Url.cutAuthority (Url.Pieces.cut "//localhost/gw:11435".toList).authority =
      (([], []), "localhost".toList, []) := by decide
  have hport : Url.readPort "http".toList (([] : List Char).drop 1) = .ok none := by decide
  exact Url.read_of_parts hscheme (by decide) hauthority (by decide) readHost_local hport

/-- It may be used, although no address names it. -/
theorem hostWithPath_unnamed : hostWithPath.check = .ok () ∧
    ¬∃ u, Url.read hostWithPath.baseUrl = .ok u ∧ hostWithPath.target.Names u := by
  constructor
  · refine check_eq_ok.mpr ⟨by decide, by decide, by decide, by decide, by decide, ?_, by decide⟩
    exact ⟨_, read_hostWithPath, Or.inl rfl⟩
  · rintro ⟨u, hr, hn⟩
    rw [read_hostWithPath] at hr
    cases hr
    exact absurd hn.port (by decide)

end Conformance.Config
