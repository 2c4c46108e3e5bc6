import Conformance.Proofs.Url.Form
import Conformance.Proofs.Url.Host
import Conformance.Proofs.Url.Path
import Conformance.Proofs.Url.Pieces

/-! The normal form of web addresses. Reading leaves an address in it, a pair put behind the query
keeps it, and the text of an address in normal form is cut into just its parts and reads as that
address, if its host reads at all. -/
namespace Conformance.Url

open Outcome

variable {text : String} {c : Char} {cs scheme authority : List Char} {u : Url} {host : Host}

/-- How a web address on `host` is left by reading it. -/
structure Normal (u : Url) (host : Host) : Prop where
  web : Web u.scheme
  username : ∀ c ∈ u.username, keptInUserInfo c = true
  password : ∀ c ∈ u.password, keptInUserInfo c = true
  named : u.host = some host
  written : host.Written
  port : ∀ port, u.port = some port → port < UInt16.size ∧ usualPort u.scheme ≠ some port
  path : ∃ names, u.path = .segments names ∧ names ≠ [] ∧ ∀ name ∈ names, IsName name
  query : ∀ q, u.query = some q → ∀ c ∈ q, keptInSpecialQuery c = true
  fragment : ∀ f, u.fragment = some f → ∀ c ∈ f, keptInFragment c = true

/-! ### Authorities -/

/-- User name, password, host and port of an authority, the last two as they stand there. -/
def cutAuthority (authority : List Char) : (List Char × List Char) × List Char × List Char :=
  let (username, password, hostAndPort) := (cutUserInfo authority).getD ([], [], authority)
  ((username, password), cutHost false hostAndPort)

theorem readAuthority_web (hw : Web scheme) (authority : List Char) :
    readAuthority scheme authority =
      if (cutAuthority authority).2.1 = [] then .error .emptyHost
      else (readHost (cutAuthority authority).2.1) >>= fun host =>
        (readPort scheme ((cutAuthority authority).2.2.drop 1)).map fun port =>
          ⟨scheme, (cutAuthority authority).1.1, (cutAuthority authority).1.2, some host, port,
            .segments [], none, none⟩ := by
  unfold readAuthority
  dsimp only
  rw [hw.isSpecial]
  simp only [true_or, and_true, if_true]
  change (if (cutAuthority authority).2.1.isEmpty = true then _ else _) = _
  by_cases he : (cutAuthority authority).2.1 = []
  · rw [if_pos (List.isEmpty_iff.mpr he), if_pos he]
    rfl
  · rw [if_neg (by simpa using he), if_neg he]
    refine bind_congr fun host => ?_
    change (readPort scheme ((cutAuthority authority).2.2.drop 1) >>= fun port => .ok
      (⟨scheme, _, _, _, port, _, _, _⟩ : Url)) = _
    cases readPort scheme ((cutAuthority authority).2.2.drop 1) <;> rfl

theorem readAuthority_inv (hw : Web scheme) (h : readAuthority scheme authority = .ok u) :
    ∃ host port, readHost (cutAuthority authority).2.1 = .ok host ∧
      readPort scheme ((cutAuthority authority).2.2.drop 1) = .ok port ∧
      u = ⟨scheme, (cutAuthority authority).1.1, (cutAuthority authority).1.2, some host, port,
            .segments [], none, none⟩ := by
  rw [readAuthority_web hw] at h
  split at h
  · cases h
  · obtain ⟨host, hh, h⟩ := bind_eq_ok.mp h
    obtain ⟨port, hp, he⟩ := map_eq_ok.mp h
    exact ⟨host, port, hh, hp, he.symm⟩

theorem cutUserInfo_none (h : '@' ∉ authority) : cutUserInfo authority = none := by
  rw [cutUserInfo, if_neg]
  simpa using h

theorem cutUserInfo_append {info rest : List Char} (h : '@' ∉ rest) :
    cutUserInfo (info ++ '@' :: rest) =
      some (percentEncode keptInUserInfo ((Text.cutAt ':' info).getD (info, [])).1,
        percentEncode keptInUserInfo ((Text.cutAt ':' info).getD (info, [])).2, rest) := by
  have hat : (info ++ '@' :: rest).contains '@' = true := by simp
  have hrest : ((info ++ '@' :: rest).reverse.takeWhile (· ≠ '@')).reverse = rest := by
    rw [List.reverse_append, List.reverse_cons, List.append_assoc,
      List.takeWhile_append_of_pos]
    · simp
    · intro c hc
      refine decide_eq_true fun he => h ?_
      rw [← he]
      exact List.mem_reverse.mp hc
  have hinfo : (info ++ '@' :: rest).take ((info ++ '@' :: rest).length - rest.length - 1) =
      info := by
    have hlen : (info ++ '@' :: rest).length - rest.length - 1 = info.length := by
      simp only [List.length_append, List.length_cons]
      omega
    rw [hlen, List.take_left]
  unfold cutUserInfo
  rw [if_pos hat]
  simp only [hrest, hinfo]

theorem cutAuthority_kept (authority : List Char) :
    (∀ c ∈ (cutAuthority authority).1.1, keptInUserInfo c = true) ∧
      ∀ c ∈ (cutAuthority authority).1.2, keptInUserInfo c = true := by
  simp only [cutAuthority, cutUserInfo]
  split
  · exact ⟨fun c hc => keepsEscapes_userInfo.mem hc, fun c hc => keepsEscapes_userInfo.mem hc⟩
  · exact ⟨List.forall_mem_nil _, List.forall_mem_nil _⟩

theorem readPort_spec {port : Option Nat} (h : readPort scheme cs = .ok port) :
    ∀ n, port = some n → n < UInt16.size ∧ usualPort scheme ≠ some n := by
  rw [readPort] at h
  split at h
  · cases h
    exact fun n hn => nomatch hn
  · split at h
    · cases h
    · rename_i n hd
      split at h
      · cases h
      · rename_i hlt
        split at h
        · cases h
          exact fun n hn => nomatch hn
        · rename_i hu
          cases h
          intro m hm
          cases hm
          exact ⟨Nat.not_le.mp hlt, hu⟩

theorem hexValue_of_readPort {port : Option Nat} (h : readPort scheme cs = .ok port) (hc : c ∈ cs) :
    (Text.hexValue c).isSome := by
  rw [readPort] at h
  split at h
  · rename_i he
    rw [List.isEmpty_iff.mp he] at hc
    cases hc
  · split at h
    · cases h
    · rename_i n hd
      exact Text.isSome_hexValue_of_ofDigits hd hc

theorem readPort_toDigits {n : Nat} {port : Option Nat}
    (h : readPort scheme (Nat.toDigits 10 n) = .ok port) : port.or (usualPort scheme) = some n := by
  have hne : (Nat.toDigits 10 n).isEmpty = false := List.isEmpty_eq_false_iff.mpr Nat.toDigits_ne_nil
  simp only [readPort, hne, Text.ofDigits_toDigits] at h
  simp only [Bool.false_eq_true, if_false] at h
  split at h
  · cases h
  · split at h
    · rename_i hu
      cases h
      exact hu
    · cases h
      rfl

/-- In front of digits that are read as a port stands all that is read as a host. -/
theorem cutHost_of_read {digits : List Char} {port : Option Nat} (hne : digits ≠ [])
    (hd : ∀ c ∈ digits, c.isDigit = true)
    (hh : readHost (cutHost false (cs ++ ':' :: digits)).1 = .ok host)
    (hp : readPort scheme ((cutHost false (cs ++ ':' :: digits)).2.drop 1) = .ok port) :
    cutHost false (cs ++ ':' :: digits) = (cs, ':' :: digits) := by
  have hcolon : ':' ∉ digits := fun hm => absurd (hd ':' hm) (by decide)
  obtain ⟨happ, hnil | ⟨more, hmore⟩⟩ := cutHost_spec false (cs ++ ':' :: digits)
  · rw [hnil, List.append_nil] at happ
    rw [happ] at hh
    -- A host with a colon is one in brackets, and ends in one.
    obtain ⟨_, hb⟩ | ⟨_, name, hname, _⟩ := readHost_cases hh
    · obtain ⟨_, _, hlast, _⟩ := readBracketed_cases hb
      rw [List.getLast?_append_cons, List.getLast?_cons, List.getLast?_eq_some_getLast hne,
        Option.getD_some] at hlast
      have hdigit := hd _ (List.getLast_mem hne)
      rw [Option.some.inj hlast] at hdigit
      exact absurd hdigit (by decide)
    · exact absurd (List.mem_append_right cs List.mem_cons_self)
        (not_mem_of_domainToAscii (c := ':') (by decide) (by decide) (by decide) hname)
  · rw [hmore, List.drop_one, List.tail_cons] at hp
    have hcolon' : ':' ∉ more := fun hm => absurd (hexValue_of_readPort hp hm) (by decide)
    rw [hmore] at happ
    obtain ⟨hfirst, hsecond⟩ := Text.append_sep_inj hcolon' hcolon happ
    exact Prod.ext hfirst (hmore.trans (congrArg (':' :: ·) hsecond))

/-- Reading leaves a web address in normal form. -/
theorem Normal.of_read (h : read text = .ok u) (hw : Web u.scheme) : ∃ host, Normal u host := by
  obtain ⟨rest, v, _, hv, hu⟩ := read_web_inv h hw
  obtain ⟨host, port, hh, hp, rfl⟩ := readAuthority_inv hw hv
  obtain ⟨names, hpath, hne, hnames⟩ := readPath_spec (Pieces.cut rest).path
  obtain ⟨husername, hpassword⟩ := cutAuthority_kept (Pieces.cut rest).authority
  have hport := readPort_spec hp
  generalize u.scheme = scheme at *
  subst hu
  refine ⟨host, hw, husername, hpassword, rfl, readHost_written hh, hport,
    ⟨names, hpath, hne, hnames⟩, ?_, ?_⟩
  · intro q hq c hc
    obtain ⟨raw, _, rfl⟩ := Option.map_eq_some_iff.mp hq
    exact keepsEscapes_specialQuery.mem hc
  · intro f hf c hc
    obtain ⟨raw, _, rfl⟩ := Option.map_eq_some_iff.mp hf
    exact keepsEscapes_fragment.mem hc

/-- The host of an address that was read was read itself. -/
theorem Normal.readHost_of_read (hn : Normal u host) (h : read text = .ok u) :
    ∃ cs, readHost cs = .ok host := by
  obtain ⟨rest, v, _, hv, hu⟩ := read_web_inv h hn.web
  obtain ⟨host', port, hh, _, rfl⟩ := readAuthority_inv hn.web hv
  have hnamed := hn.named
  rw [hu] at hnamed
  obtain rfl : host' = host := Option.some.inj hnamed
  exact ⟨_, hh⟩

theorem Normal.withPair (hn : Normal u host) (name value : String) :
    Normal (u.withPair name value) host := by
  refine { hn with query := fun q hq c hc => ?_ }
  obtain rfl := Option.some.inj hq
  have hpair : ∀ c ∈ Form.encodePair name.toList value.toList, keptInSpecialQuery c = true := by
    intro c hc
    obtain hw | rfl := Form.mem_encodePair hc
    · exact (Form.isWritten_plain hw).2.2.2
    · decide
  rw [Form.append] at hc
  split at hc
  · exact hpair c hc
  · obtain hc | hc := List.mem_append.mp hc
    · cases hq : u.query with
      | none =>
        rw [hq] at hc
        cases hc
      | some old =>
        rw [hq] at hc
        exact hn.query old hq c hc
    · obtain rfl | hc := List.mem_cons.mp hc
      · decide
      · exact hpair c hc

/-- An address is put together from its parts. -/
theorem read_of_parts {rest username password name portText : List Char} {port : Option Nat}
    (hs : cutScheme (significant text) = some (scheme, rest)) (hw : Web scheme)
    (ha : cutAuthority (Pieces.cut rest).authority = ((username, password), name, portText))
    (hne : name ≠ []) (hh : readHost name = .ok host)
    (hp : readPort scheme (portText.drop 1) = .ok port) :
    read text = .ok ((Pieces.cut rest).complete
      ⟨scheme, username, password, some host, port, .segments [], none, none⟩) := by
  rw [read_web hs hw, readAuthority_web hw, ha, if_neg hne, hh]
  simp only [hp]
  rfl

/-! ### Text -/

/-- User information, host and port, as they are written. -/
def authorityText (u : Url) (host : Host) : List Char := u.userInfo ++ host.text ++ u.portText

theorem mem_portText (hc : c ∈ u.portText) : c = ':' ∨ c.isDigit = true := by
  rw [portText] at hc
  split at hc
  · cases hc
  · obtain rfl | hc := List.mem_cons.mp hc
    · exact Or.inl rfl
    · exact Or.inr (Text.isDigit_of_mem_toDigits hc)

/-- Characters that end an authority. -/
def endsAuthority (c : Char) : Bool := ['/', '\\', '?', '#'].contains c

/-- Characters that neither end an authority nor are trimmed. -/
def isAuthorityChar (c : Char) : Bool := 0x20 < c.toNat && !endsAuthority c

theorem endsAuthority_of_isAuthorityChar (h : isAuthorityChar c = true) :
    endsAuthority c = false := by
  simp only [isAuthorityChar, Bool.and_eq_true, Bool.not_eq_true'] at h
  exact h.2

theorem ascii_of_isPlain (h : isPlain c = true) : c.toNat < 0x80 := by
  simp only [isPlain, Bool.and_eq_true, decide_eq_true_eq] at h
  omega

/-- What a part of an address keeps is in ASCII, and seen. -/
theorem kept_plain (h : keptInFragment c = true ∨ keptInSpecialQuery c = true) :
    isPlain c = true := by
  obtain h | h := h
  · simp only [keptInFragment, Bool.and_eq_true] at h
    exact h.1
  · simp only [keptInSpecialQuery, keptInQuery, Bool.and_eq_true] at h
    exact h.1.1

theorem isAuthorityChar_of_userInfo (h : keptInUserInfo c = true) : isAuthorityChar c = true := by
  have hp : isPlain c = true := by
    simp only [keptInUserInfo, keptInPath, Bool.and_eq_true] at h
    exact kept_plain (Or.inl h.1.1)
  exact ascii_forall (P := fun c => keptInUserInfo c = true → isAuthorityChar c = true)
    (by decide +kernel) (ascii_of_isPlain hp) h

theorem isAuthorityChar_of_host (h : isHostChar c = true) : isAuthorityChar c = true := by
  have ha : c.toNat < 0x80 := by
    simp only [isHostChar, Bool.and_eq_true] at h
    exact of_decide_eq_true h.1
  exact ascii_forall (P := fun c => isHostChar c = true → isAuthorityChar c = true)
    (by decide +kernel) ha h

theorem isAuthorityChar_of_digit (h : c.isDigit = true) : isAuthorityChar c = true :=
  ascii_forall (P := fun c => c.isDigit = true → isAuthorityChar c = true) (by decide +kernel)
    (ascii_of_isDigit h) h

theorem mem_userInfo (hn : Normal u host) (hc : c ∈ u.userInfo) :
    c = '@' ∨ c = ':' ∨ keptInUserInfo c = true := by
  rw [userInfo] at hc
  split at hc
  · cases hc
  · split at hc
    · simp only [List.append_nil, List.mem_append, List.mem_singleton] at hc
      obtain hc | rfl := hc
      · exact Or.inr (Or.inr (hn.username c hc))
      · exact Or.inl rfl
    · simp only [List.mem_append, List.mem_cons, List.not_mem_nil, or_false] at hc
      obtain (hc | rfl | hc) | rfl := hc
      · exact Or.inr (Or.inr (hn.username c hc))
      · exact Or.inr (Or.inl rfl)
      · exact Or.inr (Or.inr (hn.password c hc))
      · exact Or.inl rfl

theorem mem_authorityText (hn : Normal u host) (hc : c ∈ u.authorityText host) :
    isAuthorityChar c = true := by
  rw [authorityText, List.mem_append, List.mem_append] at hc
  obtain (hc | hc) | hc := hc
  · obtain rfl | rfl | hk := mem_userInfo hn hc
    · decide
    · decide
    · exact isAuthorityChar_of_userInfo hk
  · exact isAuthorityChar_of_host (mem_hostText hn.written hc)
  · obtain rfl | hd := mem_portText hc
    · decide
    · exact isAuthorityChar_of_digit hd

theorem not_mem_at (hn : Normal u host) : '@' ∉ host.text ++ u.portText := by
  intro hm
  obtain hm | hm := List.mem_append.mp hm
  · exact absurd (mem_hostText hn.written hm) (by decide)
  · obtain h | h := mem_portText hm
    · exact absurd h (by decide)
    · exact absurd h (by decide)

/-- An authority is cut into the parts it was written from. -/
theorem cutAuthority_text (hn : Normal u host) :
    cutAuthority (u.authorityText host) = ((u.username, u.password), host.text, u.portText) := by
  have hcut : (cutUserInfo (u.authorityText host)).getD ([], [], u.authorityText host) =
      (u.username, u.password, host.text ++ u.portText) := by
    have hname : percentEncode keptInUserInfo u.username = u.username :=
      percentEncode_eq_self hn.username
    have hpass : percentEncode keptInUserInfo u.password = u.password :=
      percentEncode_eq_self hn.password
    have hcolon : ':' ∉ u.username := fun hm => absurd (hn.username ':' hm) (by decide)
    rw [authorityText, List.append_assoc, userInfo]
    split
    · rename_i he
      rw [List.nil_append, cutUserInfo_none (not_mem_at hn), List.isEmpty_iff.mp he.1,
        List.isEmpty_iff.mp he.2]
      rfl
    · rw [List.append_assoc, List.singleton_append, cutUserInfo_append (not_mem_at hn)]
      split
      · rename_i he
        rw [List.append_nil, Text.cutAt_eq_none hcolon, Option.getD_none, hname,
          List.isEmpty_iff.mp he]
        rfl
      · rw [Text.cutAt_append hcolon]
        simp only [Option.getD_some, hname, hpass]
  have hport : u.portText = [] ∨ ∃ more, u.portText = ':' :: more := by
    rw [portText]
    cases u.port with
    | none => exact Or.inl rfl
    | some port => exact Or.inr ⟨_, rfl⟩
  simp only [cutAuthority, hcut]
  rw [cutHost_text hn.written hport]

theorem readPort_text (hn : Normal u host) : readPort u.scheme (u.portText.drop 1) = .ok u.port := by
  cases hp : u.port with
  | none => simp [portText, hp, readPort]
  | some port =>
    obtain ⟨hlt, hu⟩ := hn.port port hp
    have hne : (Nat.toDigits 10 port).isEmpty = false :=
      List.isEmpty_eq_false_iff.mpr Nat.toDigits_ne_nil
    simp only [portText, hp, List.drop_one, List.tail_cons]
    rw [readPort, hne, Text.ofDigits_toDigits]
    simp only [Bool.false_eq_true, if_false, if_neg (Nat.not_le.mpr hlt), if_neg hu]

/-- An authority is read again as it was, if its host is read at all. -/
theorem readAuthority_text (hn : Normal u host) :
    readAuthority u.scheme (u.authorityText host) = (readHost host.text).map fun host' =>
      ⟨u.scheme, u.username, u.password, some host', u.port, .segments [], none, none⟩ := by
  rw [readAuthority_web hn.web, cutAuthority_text hn]
  rw [if_neg (hostText_ne_nil hn.written), readPort_text hn]
  cases readHost host.text <;> rfl

/-! ### Whole addresses -/

theorem cutScheme_web (hw : Web scheme) (rest : List Char) :
    cutScheme (scheme ++ ':' :: rest) = some (scheme, rest) := by
  obtain rfl | rfl := hw
  · rw [cutScheme, Text.cutAt_append (by decide)]
    rfl
  · rw [cutScheme, Text.cutAt_append (by decide)]
    rfl

/-- What is written between delimiters is cut at the same delimiters. -/
theorem cut_written {path : List Char} {query : Option (List Char)}
    (hne : authority ≠ []) (ha : ∀ c ∈ authority, endsAuthority c = false)
    (hpath : path = [] ∨ ∃ more, path = '/' :: more) (hp : '?' ∉ path ∧ '#' ∉ path)
    (hq : '#' ∉ marked '?' query) (fragment : Option (List Char)) :
    Pieces.cut ('/' :: '/' :: authority ++ path ++ marked '?' query ++ marked '#' fragment) =
      ⟨authority, path, query, fragment⟩ := by
  have hno : ∀ c, endsAuthority c = true → c ∉ authority := by
    intro c hc hm
    rw [ha c hm] at hc
    cases hc
  have hslash : ∀ c ∈ authority, isSlash true c = false := by
    intro c hc
    refine isSlash_eq_false.mpr ⟨?_, ?_⟩ <;> (rintro rfl; exact hno _ (by decide) hc)
  have hmark : '?' ∉ '/' :: '/' :: authority ++ path := by
    simp [hno '?' (by decide), hp.1]
  have hhash : '#' ∉ '/' :: '/' :: authority ++ path ++ marked '?' query := by
    rw [List.mem_append, not_or]
    refine ⟨?_, hq⟩
    simp [hno '#' (by decide), hp.2]
  have htail : cutTail ('/' :: '/' :: authority ++ path ++ marked '?' query ++
      marked '#' fragment) = ('/' :: '/' :: authority ++ path, query, fragment) := by
    simp only [cutTail]
    rw [cutMarked_marked hhash, cutMarked_marked hmark]
  have hfront : ('/' :: '/' :: authority ++ path).dropWhile (isSlash true) = authority ++ path := by
    obtain ⟨a, rest, rfl⟩ := List.exists_cons_of_ne_nil hne
    have hs : isSlash true '/' = true := rfl
    simp [hs, hslash a List.mem_cons_self]
  have hkeep : ∀ c ∈ authority, (!isSlash true c) = true := fun c hc => by rw [hslash c hc]; rfl
  have hs : (!isSlash true '/') = false := rfl
  simp only [Pieces.cut, htail, cutFront, hfront, cutPath]
  rw [List.takeWhile_append_of_pos hkeep, List.dropWhile_append_of_pos hkeep]
  obtain rfl | ⟨more, rfl⟩ := hpath
  · simp
  · rw [List.takeWhile_cons_of_neg (by rw [hs]; decide),
      List.dropWhile_cons_of_neg (by rw [hs]; decide), List.append_nil]

theorem visible_of_isPlain (h : isPlain c = true) (hs : c ≠ ' ') : 0x20 < c.toNat := by
  simp only [isPlain, Bool.and_eq_true, decide_eq_true_eq] at h
  refine Nat.lt_of_le_of_ne h.1 fun he => hs ?_
  rw [← Char.ofNat_toNat c, ← he]

theorem visible_of_kept (h : keptInFragment c = true ∨ keptInSpecialQuery c = true) :
    0x20 < c.toNat := by
  refine visible_of_isPlain (kept_plain h) ?_
  rintro rfl
  obtain h | h := h <;> exact absurd h (by decide)

theorem keptInFragment_of_path (h : keptInPath c = true) : keptInFragment c = true := by
  simp only [keptInPath, Bool.and_eq_true] at h
  exact h.1

theorem mem_pathText (hn : Normal u host) (hc : c ∈ u.path.text) : keptInPath c = true := by
  obtain ⟨names, hp, _, hnames⟩ := hn.path
  rw [hp] at hc
  obtain rfl | ⟨name, hm, hc⟩ := mem_text_segments hc
  · decide
  · exact (hnames name hm).kept c hc

theorem mem_marked {mark : Char} {after : Option (List Char)} (hc : c ∈ marked mark after) :
    c = mark ∨ ∃ cs, after = some cs ∧ c ∈ cs := by
  cases after with
  | none => cases hc
  | some cs => exact (List.mem_cons.mp hc).imp_right fun hm => ⟨cs, rfl, hm⟩

theorem chars_eq (hn : Normal u host) : u.chars = u.scheme ++ ':' ::
    ('/' :: '/' :: u.authorityText host ++ u.path.text ++ marked '?' u.query ++
      marked '#' u.fragment) := by
  simp [chars, originText, hn.named, authorityText]

theorem visible_chars (hn : Normal u host) : ∀ c ∈ u.chars, 0x20 < c.toNat := by
  intro c hc
  rw [chars_eq hn] at hc
  simp only [List.mem_append, List.mem_cons] at hc
  obtain hc | rfl | (((rfl | rfl | hc) | hc) | hc) | hc := hc
  · have hweb : ∀ scheme, Web scheme → ∀ c ∈ scheme, 0x20 < c.toNat := by
      rintro _ (rfl | rfl) <;> exact List.all_iff_forall_prop.mp (by decide)
    exact hweb u.scheme hn.web c hc
  · decide
  · decide
  · decide
  · have ha := mem_authorityText hn hc
    simp only [isAuthorityChar, Bool.and_eq_true, decide_eq_true_eq] at ha
    exact ha.1
  · exact visible_of_kept (Or.inl (keptInFragment_of_path (mem_pathText hn hc)))
  · obtain rfl | ⟨q, hq, hc⟩ := mem_marked hc
    · decide
    · exact visible_of_kept (Or.inr (hn.query q hq c hc))
  · obtain rfl | ⟨f, hf, hc⟩ := mem_marked hc
    · decide
    · exact visible_of_kept (Or.inl (hn.fragment f hf c hc))

/-- Scheme and pieces of a text that is read as an address. -/
def piecesOf (text : String) : Option (List Char × Pieces) :=
  (cutScheme (significant text)).map fun (scheme, rest) => (scheme, Pieces.cut rest)

/-- The text of an address in normal form is cut into its parts. -/
theorem piecesOf_text (hn : Normal u host) : piecesOf u.text =
    some (u.scheme, ⟨u.authorityText host, u.path.text, u.query, u.fragment⟩) := by
  have hsig : significant u.text = u.chars := by
    have htext : u.text.toList = u.chars := String.toList_ofList
    rw [← htext]
    refine significant_of_visible ?_
    rw [htext]
    exact visible_chars hn
  obtain ⟨names, hp, hne, _⟩ := hn.path
  have hauthority : u.authorityText host ≠ [] := by
    rw [authorityText, List.append_assoc]
    exact List.append_ne_nil_of_right_ne_nil _
      (List.append_ne_nil_of_left_ne_nil (hostText_ne_nil hn.written) _)
  have hpath : u.path.text = '/' :: Text.joinWith '/' names := by rw [hp, pathText_eq hne]
  have hmarks : '?' ∉ u.path.text ∧ '#' ∉ u.path.text :=
    ⟨fun hm => absurd (mem_pathText hn hm) (by decide),
      fun hm => absurd (mem_pathText hn hm) (by decide)⟩
  have hquery : '#' ∉ marked '?' u.query := by
    intro hm
    obtain h | ⟨q, hq, hc⟩ := mem_marked hm
    · exact absurd h (by decide)
    · exact absurd (hn.query q hq '#' hc) (by decide)
  have hcut := cut_written hauthority
    (fun c hc => endsAuthority_of_isAuthorityChar (mem_authorityText hn hc)) (Or.inr ⟨_, hpath⟩)
    hmarks hquery u.fragment
  rw [piecesOf, hsig, chars_eq hn, cutScheme_web hn.web, Option.map_some, ← hcut]

/-- The text of an address in normal form reads as that address, if its host reads at all. -/
theorem read_text (hn : Normal u host) : read u.text = (readHost host.text).map fun _ => u := by
  obtain ⟨⟨scheme, rest⟩, hcut, hpieces⟩ := Option.map_eq_some_iff.mp (piecesOf_text hn)
  obtain ⟨rfl, hp⟩ := Prod.mk.inj hpieces
  rw [read_web hcut hn.web, hp, readAuthority_text hn]
  cases hh : readHost host.text with
  | error e => rfl
  | ok host' =>
    obtain rfl := readHost_text hn.written hh
    obtain ⟨names, hpath, hne, hnames⟩ := hn.path
    have hq : u.query.map (percentEncode keptInSpecialQuery) = u.query := by
      cases hq : u.query with
      | none => rfl
      | some q => rw [Option.map_some, percentEncode_eq_self (hn.query q hq)]
    have hf : u.fragment.map (percentEncode keptInFragment) = u.fragment := by
      cases hf : u.fragment with
      | none => rfl
      | some f => rw [Option.map_some, percentEncode_eq_self (hn.fragment f hf)]
    have hr : readPath true u.path.text = u.path := by rw [hpath, readPath_text hne hnames]
    simp only [Except.map, Pieces.complete, hq, hf, hr, ← hn.named]

end Conformance.Url
