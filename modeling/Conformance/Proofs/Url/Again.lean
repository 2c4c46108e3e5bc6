import Conformance.Proofs.Url.Host

/-! Whether a host that was read can be read again from its text. Encodings are written longer than
they are read, and nothing else is in the way. -/
namespace Conformance.Url

open Punycode (isAscii)
open Text (splitAt joinWith)

variable {cs name label : List Char} {labels : List (List Char)} {bytes : List UInt8} {host : Host}

/-- If the label is encoded, then in no more characters than are read. -/
def ShortLabel (part : List Char) : Prop :=
  ∀ encoding, part = encodedMark ++ encoding → encoding.length ≤ longestEncoding

/-- Addresses in numbers have no labels. -/
def Host.IsShort : Host → Prop
  | .domain name => ∀ part ∈ splitAt '.' name, ShortLabel part
  | _ => True

theorem readLabel_self (h : readLabel cs = some label) (ha : label.all isAscii = true) :
    readLabel label = some label ∧ encodedMark.isPrefixOf label = false := by
  obtain rfl := readLabel_ascii h ha
  refine ⟨h, ?_⟩
  obtain ⟨_, ⟨hp, _⟩ | ⟨_, _, _, hn⟩⟩ := readLabel_cases h
  · exact hp
  · rw [ha] at hn
    cases hn

/-- A written label is read unless its encoding is too long. -/
theorem readLabel_written (h : readLabel cs = some label) :
    readLabel (writeLabel label) = some label ↔ ShortLabel (writeLabel label) := by
  by_cases ha : label.all isAscii = true
  · obtain ⟨hself, hmark⟩ := readLabel_self h ha
    have hw : writeLabel label = label := if_pos ha
    rw [hw]
    refine ⟨fun _ encoding he => ?_, fun _ => hself⟩
    rw [he, List.isPrefixOf_iff_prefix.mpr (List.prefix_append _ _)] at hmark
    cases hmark
  · have hl := (readLabel_cases h).1
    have hlong : label.length ≤ longestLabel := (isLabel_spec hl).2.resolve_left ha
    have hw : writeLabel label = encodedMark ++ Punycode.encode label := if_neg ha
    have hshort : ShortLabel (writeLabel label) ↔
        ¬longestEncoding < (Punycode.encode label).length := by
      rw [hw]
      constructor
      · exact fun hs => Nat.not_lt.mpr (hs _ rfl)
      · rintro hn encoding he
        rw [← List.append_cancel_left he]
        exact Nat.not_lt.mp hn
    rw [hshort, hw, readLabel, if_pos (by simp)]
    simp only [List.drop_left, Punycode.decode_encode hlong, hl, Bool.eq_false_iff.mpr ha]
    split
    · simp [*]
    · simp [*]

theorem mapM_readLabel_written (h : ∀ label ∈ labels, ∃ cs, readLabel cs = some label) :
    (labels.map writeLabel).mapM readLabel = some labels ↔
      ∀ part ∈ labels.map writeLabel, ShortLabel part := by
  constructor
  · intro hm part hp
    obtain ⟨label, hl, rfl⟩ := List.mem_map.mp hp
    obtain ⟨cs, hr⟩ := h label hl
    obtain ⟨label', _, hr'⟩ := (Outcome.mapM_eq_some hm).2.2 _ hp
    obtain rfl := readLabel_writeLabel hr hr'
    exact (readLabel_written hr).mp hr'
  · intro hs
    refine Outcome.mapM_map_of_reads fun label hl => ?_
    obtain ⟨cs, hr⟩ := h label hl
    exact (readLabel_written hr).mpr (hs _ (List.mem_map_of_mem hl))

/-- A name that was read is read again exactly if its labels are short. -/
theorem domainToAscii_again (h : domainToAscii bytes = some name) :
    domainToAscii (utf8 name) = some name ↔ ∀ part ∈ splitAt '.' name, ShortLabel part := by
  have hchars : ∀ c ∈ name, isNameChar c = true := fun c hc => mem_name h hc
  obtain ⟨cs, labels, _, hlabels, hdirected, rfl⟩ := domainToAscii_eq_some.mp h
  have hread : ∀ label ∈ labels, ∃ cs, readLabel cs = some label :=
    fun label hl => ((labels_spec hlabels).2 label hl).imp fun _ hp => hp.2
  rw [splitAt_name hlabels, ← mapM_readLabel_written hread, domainToAscii_eq_some]
  constructor
  · rintro ⟨cs', labels', hcs', hlabels', _, _⟩
    obtain rfl := Option.some.inj ((ofUtf8?_utf8 _).symm.trans hcs')
    rw [composed_name hchars, splitAt_name hlabels] at hlabels'
    rwa [mapM_writeLabel hread hlabels'] at hlabels'
  · intro hm
    refine ⟨_, labels, ofUtf8?_utf8 _, ?_, hdirected, rfl⟩
    rwa [composed_name hchars, splitAt_name hlabels]

/-- The text of a host that was read is read again exactly if its labels are short. -/
theorem readHost_again (h : readHost cs = .ok host) :
    readHost host.text = .ok host ↔ host.IsShort := by
  have hw := readHost_written h
  cases host with
  | domain name =>
    obtain ⟨hne, hchars, hnumber, _⟩ := hw
    have hhead : name.head? ≠ some '[' := fun hb =>
      not_mem_of_isNameChar (c := '[') (by decide) hchars (List.mem_of_mem_head? hb)
    have hp : '%' ∉ name := not_mem_of_isNameChar (by decide) hchars
    obtain ⟨_, hb⟩ | ⟨_, name', hd, _, ⟨_, _, _, he⟩ | ⟨_, he⟩⟩ := readHost_cases h
    · obtain ⟨_, he, _⟩ := readBracketed_cases hb
      cases he
    · cases he
    · cases he
      rw [Host.IsShort, ← domainToAscii_again hd]
      constructor
      · intro ha
        obtain ⟨hb, _⟩ | ⟨_, name', hd', _, ⟨_, _, _, he⟩ | ⟨_, he⟩⟩ := readHost_cases ha
        · exact absurd hb hhead
        · cases he
        · cases he
          rwa [Host.text, percentDecode_plain hp] at hd'
      · intro hd'
        rw [Host.text, readHost_eq hhead hp hne hd', hnumber]
        rfl
  | ipv4 address => exact ⟨fun _ => trivial, fun _ => readHost_ipv4 hw⟩
  | ipv6 pieces => exact ⟨fun _ => trivial, fun _ => readHost_ipv6 hw.1 hw.2⟩
  | opaqueName text => exact hw.elim

end Conformance.Url
