import Conformance.Proofs.Outcome
import Conformance.Proofs.Text.Ascii
import Conformance.Proofs.Text.Split
import Conformance.Proofs.Url.Percent
import Conformance.Proofs.Url.Punycode
import Conformance.Url.Domain

/-! A name that was read is written in characters that mean nothing else in a URL, and if it is read
again, it stays what it is. -/
namespace Conformance.Url

open Punycode (isAscii)
open Text (splitAt joinWith composed standsAlone)

variable {c : Char} {cs name label : List Char} {labels : List (List Char)} {bytes : List UInt8}

/-- ASCII characters that may stand in a written name. -/
def isNameChar (c : Char) : Bool := isAscii c && isLabelChar c

theorem ascii_of_isNameChar (h : isNameChar c = true) : c.toNat < 0x80 := by
  simp only [isNameChar, Bool.and_eq_true] at h
  exact of_decide_eq_true h.1

theorem isNameChar_spec (h : isNameChar c = true) :
    isForbiddenInDomain c = false ∧ c.toLower = c := by
  simp only [isNameChar, Bool.and_eq_true] at h
  obtain ⟨ha, hl⟩ := h
  rw [isLabelChar, if_pos ha] at hl
  simpa using hl

theorem isNameChar_of_digit (h : Punycode.IsDigit c) : isNameChar c = true := by
  obtain ⟨d, hd, rfl⟩ := h
  have hall : ∀ d < 36, isNameChar (Punycode.digitChar d) = true := by decide
  exact hall d hd

/-! ### Labels -/

theorem isLabel_spec (h : isLabel label = true) :
    (∀ c ∈ label, isLabelChar c = true) ∧
      (label.all isAscii = true ∨ label.length ≤ longestLabel) := by
  simp only [isLabel, Bool.and_eq_true, Bool.or_eq_true, List.all_eq_true,
    decide_eq_true_eq] at h ⊢
  exact ⟨h.1.1.1.1, h.2⟩

theorem isLabel_ascii (h : ∀ c ∈ label, isNameChar c = true) : isLabel label = true := by
  have ha : ∀ c ∈ label, c.toNat < 0x80 := fun c hc => ascii_of_isNameChar (h c hc)
  have hall : label.all isAscii = true :=
    List.all_eq_true.mpr fun c hc => decide_eq_true (ha c hc)
  have hl : label.all isLabelChar = true := by
    refine List.all_eq_true.mpr fun c hc => ?_
    have hn := h c hc
    simp only [isNameChar, Bool.and_eq_true] at hn
    exact hn.2
  have hm : label.head?.any Text.isMark = false := by
    cases label with
    | nil => rfl
    | cons c rest => exact Text.isMark_ascii (ha c List.mem_cons_self)
  rw [isLabel, hl, hm, Text.composed_ascii ha, Text.joinersStand_ascii ha, hall]
  simp

/-- A label stands as it is, or encoded after the mark. -/
theorem readLabel_cases (h : readLabel cs = some label) : isLabel label = true ∧
    ((encodedMark.isPrefixOf cs = false ∧ label = cs) ∨
      (∃ encoding, cs = encodedMark ++ encoding ∧ Punycode.decode encoding = some label ∧
        label.all isAscii = false)) := by
  rw [readLabel] at h
  split at h
  · rename_i hmark
    obtain ⟨encoding, rfl⟩ := List.isPrefixOf_iff_prefix.mp hmark
    simp only [List.drop_left] at h
    split at h
    · cases h
    · split at h
      · rename_i decoded hd
        split at h
        · rename_i hok
          cases h
          simp only [Bool.and_eq_true, Bool.not_eq_true'] at hok
          exact ⟨hok.1, Or.inr ⟨encoding, rfl, hd, hok.2⟩⟩
        · cases h
      · cases h
  · split at h
    · rename_i hp hok
      cases h
      exact ⟨hok, Or.inl ⟨Bool.eq_false_iff.mpr hp, rfl⟩⟩
    · cases h

theorem readLabel_ascii (h : readLabel cs = some label) (ha : label.all isAscii = true) :
    label = cs := by
  obtain ⟨_, ⟨_, he⟩ | ⟨_, _, _, hn⟩⟩ := readLabel_cases h
  · exact he
  · rw [ha] at hn
    cases hn

/-- Reading a label adds no ASCII characters, and loses none but those of an encoding. -/
theorem mem_readLabel (h : readLabel cs = some label) :
    (∀ c ∈ label, c ∈ cs ∨ 0x80 ≤ c.toNat) ∧
      ∀ c ∈ cs, c ∉ encodedMark → Punycode.digitValue c = none → c ∈ label := by
  obtain ⟨_, ⟨_, rfl⟩ | ⟨encoding, rfl, hd, _⟩⟩ := readLabel_cases h
  · exact ⟨fun _ hm => Or.inl hm, fun _ hm _ _ => hm⟩
  · obtain ⟨hadds, hkeeps⟩ := Punycode.mem_decode hd
    refine ⟨fun c hm => (hadds c hm).imp_left (List.mem_append_right _), fun c hm hn hv => ?_⟩
    refine hkeeps c ((List.mem_append.mp hm).resolve_left hn) hv ?_
    rintro rfl
    exact hn (by decide)

/-- A label with nothing in it that is written from the right. -/
theorem isFromRight_of_left (h : ∀ c ∈ label, Text.direction c ≠ .rightToLeft ∧
    Text.direction c ≠ .arabicNumber) : isFromRight label = false := by
  refine List.any_eq_false.mpr fun c hc hd => ?_
  obtain ⟨hr, ha⟩ := h c hc
  simp [hr, ha] at hd

theorem readLabel_plain (h : ∀ c ∈ label, isNameChar c = true)
    (hp : encodedMark.isPrefixOf label = false) : readLabel label = some label := by
  rw [readLabel, hp, isLabel_ascii h]
  rfl

/-- What is written of a label reads as that label. -/
theorem readLabel_writeLabel {label' : List Char} (h : readLabel cs = some label)
    (h' : readLabel (writeLabel label) = some label') : label' = label := by
  have hl := (readLabel_cases h).1
  by_cases ha : label.all isAscii = true
  · obtain rfl := readLabel_ascii h ha
    rw [writeLabel, if_pos ha] at h'
    exact Option.some.inj (h'.symm.trans h)
  · have hlong : label.length ≤ longestLabel := (isLabel_spec hl).2.resolve_left ha
    rw [writeLabel, if_neg ha, readLabel, if_pos (by simp)] at h'
    simp only [List.drop_left, Punycode.decode_encode hlong] at h'
    split at h'
    · cases h'
    · split at h'
      · exact (Option.some.inj h').symm
      · cases h'

theorem mem_writeLabel (hl : isLabel label = true) (h : c ∈ writeLabel label) :
    isNameChar c = true ∧ (c = '.' → c ∈ label) := by
  obtain ⟨hchars, hlong⟩ := isLabel_spec hl
  have hin : c ∈ label → isAscii c = true → isNameChar c = true := fun hm ha => by
    rw [isNameChar, ha, hchars c hm]
    rfl
  rw [writeLabel] at h
  split at h
  · rename_i ha
    exact ⟨hin h (List.all_eq_true.mp ha c h), fun _ => h⟩
  · rename_i ha
    obtain h | h := List.mem_append.mp h
    · have hall : ∀ d ∈ encodedMark, isNameChar d = true ∧ d ≠ '.' :=
        List.all_iff_forall_prop.mp (by decide)
      exact ⟨(hall c h).1, fun he => absurd he (hall c h).2⟩
    · obtain ⟨hm, hc⟩ | rfl | hd := Punycode.mem_encode (hlong.resolve_left ha) h
      · exact ⟨hin hm hc, fun _ => hm⟩
      · exact ⟨by decide, fun he => absurd he (by decide)⟩
      · refine ⟨isNameChar_of_digit hd, ?_⟩
        rintro rfl
        obtain ⟨d, hlt, he⟩ := hd
        have hall : ∀ d < 36, '.' ≠ Punycode.digitChar d := by decide
        exact absurd he (hall d hlt)

/-! ### Names -/

/-- The labels of a name, as they are read. -/
theorem domainToAscii_eq_some : domainToAscii bytes = some name ↔
    ∃ cs labels, ofUtf8? bytes = some cs ∧
      (splitAt '.' (composed (cs.flatMap foldChar))).mapM readLabel = some labels ∧
      (labels.any isFromRight && !labels.all isDirected) = false ∧
      joinWith '.' (labels.map writeLabel) = name := by
  simp only [domainToAscii, Option.bind_eq_bind, Option.bind_eq_some_iff]
  constructor
  · rintro ⟨cs, hcs, labels, hlabels, h⟩
    split at h
    · cases h
    · rename_i hd
      exact ⟨cs, labels, hcs, hlabels, Bool.eq_false_iff.mpr hd, Option.some.inj h⟩
  · rintro ⟨cs, labels, hcs, hlabels, hd, rfl⟩
    exact ⟨cs, hcs, labels, hlabels, by rw [hd]; rfl⟩

theorem mapM_writeLabel {labels' : List (List Char)}
    (h : ∀ label ∈ labels, ∃ cs, readLabel cs = some label)
    (h' : (labels.map writeLabel).mapM readLabel = some labels') : labels' = labels := by
  induction labels generalizing labels' with
  | nil =>
    cases h'
    rfl
  | cons label labels ih =>
    rw [List.map_cons, List.mapM_cons] at h'
    simp only [Option.bind_eq_bind, Option.bind_eq_some_iff] at h'
    obtain ⟨label', hl', rest, hr, he⟩ := h'
    cases he
    obtain ⟨cs, hl⟩ := h label List.mem_cons_self
    rw [readLabel_writeLabel hl hl', ih (fun l hm => h l (List.mem_cons_of_mem label hm)) hr]

/-- The labels of a name with no separator in them, none of them absent. -/
theorem labels_spec (h : (splitAt '.' cs).mapM readLabel = some labels) :
    labels ≠ [] ∧ ∀ label ∈ labels, ∃ part, '.' ∉ part ∧ readLabel part = some label := by
  obtain ⟨hlen, hfrom, _⟩ := Outcome.mapM_eq_some h
  constructor
  · rintro rfl
    exact Text.splitAt_ne_nil '.' cs (List.length_eq_zero_iff.mp hlen)
  · intro label hl
    obtain ⟨part, hp, hr⟩ := hfrom label hl
    exact ⟨part, (Text.mem_splitAt hp).1, hr⟩

theorem mem_name (h : domainToAscii bytes = some name) (hc : c ∈ name) : isNameChar c = true := by
  obtain ⟨cs, labels, _, hlabels, _, rfl⟩ := domainToAscii_eq_some.mp h
  obtain rfl | ⟨written, hw, hm⟩ := Text.mem_joinWith hc
  · decide
  · obtain ⟨label, hl, rfl⟩ := List.mem_map.mp hw
    obtain ⟨part, _, hr⟩ := (labels_spec hlabels).2 label hl
    exact (mem_writeLabel (readLabel_cases hr).1 hm).1

theorem flatMap_foldChar (h : ∀ c ∈ name, isNameChar c = true) : name.flatMap foldChar = name := by
  induction name with
  | nil => rfl
  | cons c name ih =>
    have hc := h c List.mem_cons_self
    rw [List.flatMap_cons, ih fun d hd => h d (List.mem_cons_of_mem c hd), foldChar,
      if_pos (ascii_of_isNameChar hc), (isNameChar_spec hc).2]
    rfl

theorem composed_name (h : ∀ c ∈ name, isNameChar c = true) :
    composed (name.flatMap foldChar) = name := by
  rw [flatMap_foldChar h, Text.composed_ascii fun c hc => ascii_of_isNameChar (h c hc)]

/-- The labels of a name that was read stand between its separators. -/
theorem splitAt_name (h : (splitAt '.' cs).mapM readLabel = some labels) :
    splitAt '.' (joinWith '.' (labels.map writeLabel)) = labels.map writeLabel := by
  obtain ⟨hne, hread⟩ := labels_spec h
  refine Text.splitAt_joinWith (by simpa using hne) fun part hp hm => ?_
  obtain ⟨label, hl, rfl⟩ := List.mem_map.mp hp
  obtain ⟨part, hn, hr⟩ := hread label hl
  have hdot := (mem_writeLabel (readLabel_cases hr).1 hm).2 rfl
  obtain hdot | hdot := (mem_readLabel hr).1 '.' hdot
  · exact hn hdot
  · exact absurd hdot (by decide)

/-- A name that is read again stays what it is. -/
theorem domainToAscii_name {name' : List Char} (h : domainToAscii bytes = some name)
    (h' : domainToAscii (utf8 name) = some name') : name' = name := by
  have hchars : ∀ c ∈ name, isNameChar c = true := fun c hc => mem_name h hc
  obtain ⟨cs, labels, _, hlabels, _, rfl⟩ := domainToAscii_eq_some.mp h
  obtain ⟨cs', labels', hcs', hlabels', _, rfl⟩ := domainToAscii_eq_some.mp h'
  obtain ⟨_, hread⟩ := labels_spec hlabels
  rw [ofUtf8?_utf8] at hcs'
  obtain rfl := Option.some.inj hcs'
  rw [composed_name hchars, splitAt_name hlabels] at hlabels'
  rw [mapM_writeLabel (fun label hl => (hread label hl).imp fun _ hp => hp.2) hlabels']

/-- A name in small ASCII letters, digits and marks is read as it is, unless it announces other
characters. -/
theorem domainToAscii_plain (h : ∀ c ∈ name, isNameChar c = true)
    (hp : ∀ part ∈ splitAt '.' name, encodedMark.isPrefixOf part = false) :
    domainToAscii (utf8 name) = some name := by
  have hpart : ∀ part ∈ splitAt '.' name, ∀ c ∈ part, isNameChar c = true :=
    fun part hm c hc => h c ((Text.mem_splitAt hm).2 c hc)
  have hread : (splitAt '.' name).mapM readLabel = some (splitAt '.' name) := by
    have hid : ∀ part ∈ splitAt '.' name, readLabel (id part) = some part :=
      fun part hm => readLabel_plain (hpart part hm) (hp part hm)
    have hmap := Outcome.mapM_map_of_reads hid
    rwa [List.map_id] at hmap
  have hleft : (splitAt '.' name).any isFromRight = false := by
    refine List.any_eq_false.mpr fun part hm => Bool.eq_false_iff.mp ?_
    exact isFromRight_of_left fun c hc =>
      Text.direction_ascii (ascii_of_isNameChar (hpart part hm c hc))
  have hwritten : (splitAt '.' name).map writeLabel = splitAt '.' name := by
    refine (List.map_congr_left fun part hm => ?_).trans (List.map_id _)
    refine if_pos (List.all_eq_true.mpr fun c hc => ?_)
    exact decide_eq_true (ascii_of_isNameChar (hpart part hm c hc))
  refine domainToAscii_eq_some.mpr ⟨name, splitAt '.' name, ofUtf8?_utf8 name, ?_, ?_, ?_⟩
  · rw [composed_name h]
    exact hread
  · rw [hleft]
    rfl
  · rw [hwritten, Text.joinWith_splitAt]

/-- Forbidden characters are no dots, no capitals, and no part of an escape or an encoding. -/
theorem isForbiddenInDomain_spec (ha : c.toNat < 0x80) (hf : isForbiddenInDomain c = true) :
    c ≠ '.' ∧ c.toLower = c ∧ Text.hexValue c = none ∧ c ∉ encodedMark ∧
      Punycode.digitValue c = none :=
  ascii_forall (P := fun c => isForbiddenInDomain c = true → c ≠ '.' ∧ c.toLower = c ∧
    Text.hexValue c = none ∧ c ∉ encodedMark ∧ Punycode.digitValue c = none)
    (by decide +kernel) ha hf

/-- Nothing that may not stand in a domain is overlooked in a text that is read as one. -/
theorem not_mem_of_domainToAscii (hf : isForbiddenInDomain c = true) (hs : standsAlone c = true)
    (hp : c ≠ '%') (h : domainToAscii (percentDecode cs) = some name) : c ∉ cs := by
  intro hc
  have ha : c.toNat < 0x80 := Text.ascii_of_standsAlone hs
  obtain ⟨hdot, hlower, hhex, hmark, hdigit⟩ := isForbiddenInDomain_spec ha hf
  obtain ⟨ds, labels, hds, hlabels, _, _⟩ := domainToAscii_eq_some.mp h
  have hmem : c ∈ ds := mem_of_percentDecode ha hp hhex (utf8_of_ofUtf8? hds) hc
  have hfold : c ∈ ds.flatMap foldChar := by
    refine List.mem_flatMap.mpr ⟨c, hmem, ?_⟩
    rw [foldChar, if_pos ha, hlower]
    exact List.mem_singleton_self c
  have hcomposed := Text.mem_composed hs hfold
  rw [← Text.joinWith_splitAt '.' (composed _)] at hcomposed
  obtain hd | ⟨part, hpart, hm⟩ := Text.mem_joinWith hcomposed
  · exact hdot hd
  · obtain ⟨label, _, hr⟩ := (Outcome.mapM_eq_some hlabels).2.2 part hpart
    have hlabel : c ∈ label := (mem_readLabel hr).2 c hm hmark hdigit
    have hbad := (isLabel_spec (readLabel_cases hr).1).1 c hlabel
    have hascii : isAscii c = true := decide_eq_true ha
    rw [isLabelChar, if_pos hascii, hf] at hbad
    cases hbad

end Conformance.Url
