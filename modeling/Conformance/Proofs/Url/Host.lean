import Conformance.Proofs.Url.Ip
import Conformance.Proofs.Url.Name
import Conformance.Url.Reader

/-! Hosts of web addresses. The text of a host that was read holds no delimiter of a URL, and if it
is read again it gives the same host. -/
namespace Conformance.Url

open Punycode (isAscii)
open Text (standsAlone)

variable {c : Char} {cs name rest : List Char} {host : Host}

/-- What a host is after it was read. -/
def Host.Written : Host → Prop
  | .domain name => name ≠ [] ∧ (∀ c ∈ name, isNameChar c = true) ∧ endsInNumber name = false ∧
      ∀ name', domainToAscii (utf8 name) = some name' → name' = name
  | .ipv4 address => address < 2 ^ 32
  | .ipv6 pieces => pieces.length = 8 ∧ ∀ p ∈ pieces, p < 0x10000
  | .opaqueName _ => False

theorem readBracketed_cases (h : readBracketed cs = .ok host) : ∃ pieces, host = .ipv6 pieces ∧
    cs.getLast? = some ']' ∧ readIpv6 (cs.drop 1).dropLast = some pieces := by
  rw [readBracketed] at h
  split at h
  · rename_i hl
    split at h
    · rename_i pieces hp
      cases h
      exact ⟨pieces, rfl, hl, hp⟩
    · cases h
  · cases h

/-- A host is an address in brackets, or a name that may be an address of version 4. -/
theorem readHost_cases (h : readHost cs = .ok host) :
    (cs.head? = some '[' ∧ readBracketed cs = .ok host) ∨
      (cs.head? ≠ some '[' ∧ ∃ name, domainToAscii (percentDecode cs) = some name ∧ name ≠ [] ∧
        ((endsInNumber name = true ∧ ∃ address, readIpv4 name = some address ∧
          host = .ipv4 address) ∨
        (endsInNumber name = false ∧ host = .domain name))) := by
  rw [readHost] at h
  split at h
  · rename_i hb
    exact Or.inl ⟨hb, h⟩
  · rename_i hb
    split at h
    · cases h
    · cases h
    · rename_i name hne hd
      refine Or.inr ⟨hb, name, hd, fun he => hne he, ?_⟩
      split at h
      · rename_i hn
        split at h
        · rename_i address ha
          cases h
          exact Or.inl ⟨hn, address, ha, rfl⟩
        · cases h
      · rename_i hn
        cases h
        exact Or.inr ⟨Bool.eq_false_iff.mpr hn, rfl⟩

theorem readHost_written (h : readHost cs = .ok host) : host.Written := by
  obtain ⟨_, hb⟩ | ⟨_, name, hd, hne, hn⟩ := readHost_cases h
  · obtain ⟨pieces, rfl, _, hp⟩ := readBracketed_cases hb
    exact readIpv6_spec hp
  · obtain ⟨_, address, ha, rfl⟩ | ⟨hn, rfl⟩ := hn
    · exact readIpv4_lt ha
    · exact ⟨hne, fun c hc => mem_name hd hc, hn, fun name' h' => domainToAscii_name hd h'⟩

/-! ### Text -/

theorem not_mem_of_isNameChar (hf : isForbiddenInDomain c = true)
    (h : ∀ d ∈ name, isNameChar d = true) : c ∉ name := by
  intro hm
  have hn := (isNameChar_spec (h c hm)).1
  rw [hf] at hn
  cases hn

theorem isNameChar_writeIpv4 {address : Nat} : ∀ c ∈ writeIpv4 address, isNameChar c = true := by
  intro c hc
  obtain hd | rfl := mem_writeIpv4 hc
  · exact ascii_forall (P := fun c => c.isDigit = true → isNameChar c = true) (by decide +kernel)
      (ascii_of_isDigit hd) hd
  · decide

theorem domainToAscii_writeIpv4 (address : Nat) :
    domainToAscii (utf8 (writeIpv4 address)) = some (writeIpv4 address) := by
  refine domainToAscii_plain isNameChar_writeIpv4 fun part hp => Bool.eq_false_iff.mpr fun hx => ?_
  obtain ⟨more, rfl⟩ := List.isPrefixOf_iff_prefix.mp hx
  have hm : 'x' ∈ writeIpv4 address := (Text.mem_splitAt hp).2 'x' (by simp [encodedMark])
  obtain hd | hd := mem_writeIpv4 hm
  · exact absurd hd (by decide)
  · exact absurd hd (by decide)

theorem readHost_eq (hb : cs.head? ≠ some '[') (hp : '%' ∉ cs) (hne : name ≠ [])
    (hd : domainToAscii (utf8 cs) = some name) :
    readHost cs = if endsInNumber name then
      (readIpv4 name).elim (.error .badIpv4) fun address => .ok (.ipv4 address)
      else .ok (.domain name) := by
  obtain ⟨c, more, rfl⟩ := List.exists_cons_of_ne_nil hne
  rw [readHost, if_neg hb, percentDecode_plain hp, hd]
  cases hr : readIpv4 (c :: more) <;> simp [hr]

/-- A name in small ASCII letters, digits and marks is a host as it stands. -/
theorem readHost_plain (hne : name ≠ []) (hc : ∀ c ∈ name, isNameChar c = true)
    (hm : ∀ part ∈ Text.splitAt '.' name, encodedMark.isPrefixOf part = false)
    (hn : endsInNumber name = false) : readHost name = .ok (.domain name) := by
  have hhead : name.head? ≠ some '[' := fun hb =>
    not_mem_of_isNameChar (c := '[') (by decide) hc (List.mem_of_mem_head? hb)
  rw [readHost_eq hhead (not_mem_of_isNameChar (by decide) hc) hne (domainToAscii_plain hc hm), hn]
  rfl

theorem readHost_ipv4 {address : Nat} (h : address < 2 ^ 32) :
    readHost (Host.ipv4 address).text = .ok (.ipv4 address) := by
  have hchars : ∀ c ∈ writeIpv4 address, isNameChar c = true := isNameChar_writeIpv4
  have hhead : (writeIpv4 address).head? ≠ some '[' := fun hb =>
    not_mem_of_isNameChar (c := '[') (by decide) hchars (List.mem_of_mem_head? hb)
  have hne : writeIpv4 address ≠ [] := by simp [writeIpv4]
  have hread := readHost_eq hhead (not_mem_of_isNameChar (by decide) hchars) hne
    (domainToAscii_writeIpv4 address)
  rw [endsInNumber_writeIpv4, readIpv4_writeIpv4 h] at hread
  exact hread

theorem readHost_ipv6 {pieces : List Nat} (hl : pieces.length = 8)
    (hp : ∀ p ∈ pieces, p < 0x10000) :
    readHost (Host.ipv6 pieces).text = .ok (.ipv6 pieces) := by
  have hhead : (Host.ipv6 pieces).text.head? = some '[' := rfl
  have hlast : (Host.ipv6 pieces).text.getLast? = some ']' := List.getLast?_concat
  rw [readHost, if_pos hhead, readBracketed, if_pos hlast, Host.text, List.cons_append,
    List.drop_one, List.tail_cons, List.dropLast_concat, readIpv6_writeIpv6 hl hp]

/-- The text of a host, where it reads at all, reads as that host. -/
theorem readHost_text {host' : Host} (hw : host.Written) (h : readHost host.text = .ok host') :
    host' = host := by
  cases host with
  | domain name =>
    obtain ⟨hne, hchars, hnumber, hagain⟩ := hw
    have hhead : name.head? ≠ some '[' := fun hb =>
      not_mem_of_isNameChar (c := '[') (by decide) hchars (List.mem_of_mem_head? hb)
    have hp : '%' ∉ name := not_mem_of_isNameChar (by decide) hchars
    obtain ⟨hb, _⟩ | ⟨_, name', hd, _, hn⟩ := readHost_cases h
    · exact absurd hb hhead
    · change domainToAscii (percentDecode name) = some name' at hd
      rw [percentDecode_plain hp] at hd
      obtain rfl := hagain name' hd
      obtain ⟨hn, _⟩ | ⟨_, he⟩ := hn
      · rw [hnumber] at hn
        cases hn
      · exact he
  | ipv4 address => exact Except.ok.inj (h.symm.trans (readHost_ipv4 hw))
  | ipv6 pieces => exact Except.ok.inj (h.symm.trans (readHost_ipv6 hw.1 hw.2))
  | opaqueName text => exact hw.elim

/-- Characters of the text of a host. -/
def isHostChar (c : Char) : Bool :=
  isAscii c && (!isForbiddenInDomain c || ['[', ']', ':'].contains c)

theorem isHostChar_of_isNameChar (h : isNameChar c = true) : isHostChar c = true := by
  have ha : isAscii c = true := decide_eq_true (ascii_of_isNameChar h)
  rw [isHostChar, ha, (isNameChar_spec h).1]
  rfl

theorem isHostChar_of_hexValue (h : (Text.hexValue c).isSome) : isHostChar c = true :=
  ascii_forall (P := fun c => (Text.hexValue c).isSome → isHostChar c = true) (by decide +kernel)
    (hexValue_ascii h) h

theorem mem_hostText (hw : host.Written) (hc : c ∈ host.text) : isHostChar c = true := by
  cases host with
  | domain name => exact isHostChar_of_isNameChar (hw.2.1 c hc)
  | ipv4 address => exact isHostChar_of_isNameChar (isNameChar_writeIpv4 c hc)
  | ipv6 pieces =>
    simp only [Host.text, List.cons_append, List.mem_cons, List.mem_append, List.not_mem_nil,
      or_false] at hc
    obtain rfl | hc | rfl := hc
    · decide
    · obtain hx | rfl := mem_writeIpv6 hc
      · exact isHostChar_of_hexValue hx
      · decide
    · decide
  | opaqueName text => exact hw.elim

theorem hostText_ne_nil (hw : host.Written) : host.text ≠ [] := by
  cases host with
  | domain name => exact hw.1
  | ipv4 address => simp [Host.text, writeIpv4]
  | ipv6 pieces => simp [Host.text]
  | opaqueName text => exact hw.elim

/-! ### Where a host ends -/

theorem cutHost_append {inside : Bool} {part : List Char} (ho : '[' ∉ part) (hc : ']' ∉ part)
    (h : inside = true ∨ ':' ∉ part) : cutHost inside (part ++ rest) =
      (part ++ (cutHost inside rest).1, (cutHost inside rest).2) := by
  induction part with
  | nil => rfl
  | cons d part ih =>
    simp only [List.mem_cons, not_or] at ho hc h
    have hcolon : ¬(d = ':' ∧ ¬inside = true) := by
      rintro ⟨rfl, hi⟩
      obtain h | h := h
      · exact hi h
      · exact h.1 rfl
    rw [List.cons_append, cutHost, if_neg hcolon]
    simp only [if_neg (Ne.symm ho.1), if_neg (Ne.symm hc.1)]
    rw [ih ho.2 hc.2 (h.imp_right And.right)]
    rfl

/-- A host ends where its port begins. -/
theorem cutHost_text (hw : host.Written) (hr : rest = [] ∨ ∃ more, rest = ':' :: more) :
    cutHost false (host.text ++ rest) = (host.text, rest) := by
  have hend : cutHost false rest = ([], rest) := by
    obtain rfl | ⟨more, rfl⟩ := hr
    · rfl
    · rfl
  have hplain : ∀ name : List Char, (∀ c ∈ name, isNameChar c = true) →
      cutHost false (name ++ rest) = (name, rest) := by
    intro name hn
    rw [cutHost_append (not_mem_of_isNameChar (by decide) hn)
      (not_mem_of_isNameChar (by decide) hn) (Or.inr (not_mem_of_isNameChar (by decide) hn)), hend,
      List.append_nil]
  cases host with
  | domain name => exact hplain name hw.2.1
  | ipv4 address => exact hplain _ isNameChar_writeIpv4
  | ipv6 pieces =>
    have hno : ∀ c, Text.hexValue c = none → c ≠ ':' → c ∉ writeIpv6 pieces := by
      intro c hx hc hm
      obtain hs | rfl := mem_writeIpv6 hm
      · rw [hx] at hs
        cases hs
      · exact hc rfl
    have ht : (Host.ipv6 pieces).text ++ rest = '[' :: (writeIpv6 pieces ++ ']' :: rest) := by
      simp [Host.text]
    rw [ht, cutHost, if_neg (by decide)]
    simp only [if_true]
    rw [cutHost_append (hno '[' (by decide) (by decide)) (hno ']' (by decide) (by decide))
      (Or.inl rfl), cutHost, if_neg (by decide)]
    simp [hend, Host.text]
  | opaqueName text => exact hw.elim

/-- What is cut off begins with a colon. -/
theorem cutHost_spec (inside : Bool) (cs : List Char) :
    (cutHost inside cs).1 ++ (cutHost inside cs).2 = cs ∧
      ((cutHost inside cs).2 = [] ∨ ∃ more, (cutHost inside cs).2 = ':' :: more) := by
  induction cs generalizing inside with
  | nil => exact ⟨rfl, Or.inl rfl⟩
  | cons c cs ih =>
    rw [cutHost]
    split
    · rename_i hc
      exact ⟨rfl, Or.inr ⟨cs, by rw [hc.1]⟩⟩
    · obtain ⟨happ, hrest⟩ := ih (if c = '[' then true else if c = ']' then false else inside)
      exact ⟨congrArg (c :: ·) happ, hrest⟩

/-! ### What a text read as a host may hold -/

/-- No delimiter of a URL stands in a text that is read as a host. -/
theorem not_mem_of_readHost (hf : isForbiddenInDomain c = true) (hs : standsAlone c = true)
    (hp : c ≠ '%') (hb : c ≠ '[' ∧ c ≠ ']' ∧ c ≠ ':') (h : readHost cs = .ok host) : c ∉ cs := by
  obtain ⟨hhead, hr⟩ | ⟨_, name, hd, _⟩ := readHost_cases h
  · obtain ⟨pieces, _, hlast, hread⟩ := readBracketed_cases hr
    intro hm
    have ha : c.toNat < 0x80 := Text.ascii_of_standsAlone hs
    obtain ⟨hdot, _, hhex, _⟩ := isForbiddenInDomain_spec ha hf
    obtain ⟨inner, rfl⟩ : ∃ inner, cs = '[' :: inner := by
      cases cs with
      | nil => cases hm
      | cons d inner => exact ⟨inner, by rw [Option.some.inj hhead]⟩
    have hin : c ∈ inner := (List.mem_cons.mp hm).resolve_left hb.1
    have hne : inner ≠ [] := List.ne_nil_of_mem hin
    rw [List.getLast?_cons, List.getLast?_eq_some_getLast hne, Option.getD_some] at hlast
    rw [← List.dropLast_concat_getLast hne, Option.some.inj hlast, List.mem_append,
      List.mem_singleton] at hin
    have hchar := mem_of_readIpv6 hread (hin.resolve_right hb.2.1)
    simp [isIpv6Char, hhex, hdot, hb.2.2] at hchar
  · exact not_mem_of_domainToAscii hf hs hp hd

end Conformance.Url
