import Conformance.Text.Composed
import Conformance.Text.Direction
import Conformance.Text.Joining
import Mathlib.Data.List.Perm.Basic

/-! What is done for other scripts leaves ASCII text as it is. Of the ASCII characters only letters
and signs of comparison take a mark, so every other one is still there in a composed text. -/
namespace Conformance.Text

variable {a b c d : Char} {cs before marks rest : List Char}

/-! ### What the tables hold -/

/-- No mark, and nothing that is written from the right, is found below this code point. -/
def firstMark : Nat := 0x300

/-- ASCII characters that stay what they are in composed text. -/
def standsAlone (c : Char) : Bool :=
  c.toNat < 0x80 && !c.isAlpha && !(['<', '=', '>'].contains c)

theorem ascii_of_standsAlone (h : standsAlone c = true) : c.toNat < 0x80 := by
  simp only [standsAlone, Bool.and_eq_true, decide_eq_true_eq] at h
  exact h.1.1

/-- What holds of every word on every line holds of the words of the table. -/
theorem forall_tableWords {table : List String} {P : List Char → Prop}
    (h : ∀ line ∈ table, ∀ word ∈ splitAt ' ' line.toList, P word) :
    ∀ word ∈ tableWords table, P word := by
  intro word hw
  obtain ⟨line, hl, hw⟩ := List.mem_flatMap.mp hw
  exact h line hl word hw

theorem forall_ranges {table : List String} {P : Nat × Nat → Prop}
    (h : ∀ line ∈ table, ∀ word ∈ splitAt ' ' line.toList, P (codeRange word)) :
    ∀ range ∈ (CodePoints.read table).ranges, P range :=
  List.forall_mem_map.mpr (forall_tableWords h)

-- line by line, so that no term is large that is decided
section
set_option maxRecDepth 10000

/-- The code points that pairs begin with, below the end of ASCII. -/
theorem words_of_pairs : ∀ word ∈ tableWords pairTable, firstMark ≤ (Pair.read word).mark ∧
    (0x80 ≤ (Pair.read word).base ∨
      standsAlone (Char.ofNat (Pair.read word).base) = false) := by
  refine forall_tableWords ?_
  unfold pairTable
  repeat refine List.forall_mem_cons.mpr ⟨by rw [String.toList_ofList]; decide +kernel, ?_⟩
  nofun

theorem nonspacing_range : ∀ range ∈ nonspacing.ranges, firstMark ≤ range.1 := by
  refine forall_ranges ?_
  unfold nonspacingTable
  repeat refine List.forall_mem_cons.mpr ⟨by rw [String.toList_ofList]; decide +kernel, ?_⟩
  nofun

theorem spacing_range : ∀ range ∈ spacing.ranges, firstMark ≤ range.1 := by
  refine forall_ranges ?_
  unfold spacingTable
  repeat refine List.forall_mem_cons.mpr ⟨by rw [String.toList_ofList]; decide +kernel, ?_⟩
  nofun

theorem rightToLeft_range : ∀ range ∈ rightToLeft.ranges, firstMark ≤ range.1 := by
  refine forall_ranges ?_
  unfold rightToLeftTable
  repeat refine List.forall_mem_cons.mpr ⟨by rw [String.toList_ofList]; decide +kernel, ?_⟩
  nofun

theorem arabicNumbers_range : ∀ range ∈ arabicNumbers.ranges, firstMark ≤ range.1 := by
  refine forall_ranges ?_
  unfold arabicNumberTable
  repeat refine List.forall_mem_cons.mpr ⟨by rw [String.toList_ofList]; decide +kernel, ?_⟩
  nofun

end

theorem pair_spec {p : Pair} (h : p ∈ pairs) :
    firstMark ≤ p.mark ∧ (0x80 ≤ p.base ∨ standsAlone (Char.ofNat p.base) = false) := by
  obtain ⟨word, hw, rfl⟩ := List.mem_map.mp h
  exact words_of_pairs word hw

theorem contains_eq_false {s : CodePoints} (h : ∀ range ∈ s.ranges, firstMark ≤ range.1)
    (hc : c.toNat < 0x80) : s.contains c = false := by
  refine List.any_eq_false.mpr fun range hr hin => ?_
  have := h range hr
  simp only [inRange, firstMark, Bool.and_eq_true, decide_eq_true_eq] at *
  omega

theorem isMark_ascii (h : c.toNat < 0x80) : isMark c = false := by
  rw [isMark, contains_eq_false nonspacing_range h, contains_eq_false spacing_range h]
  rfl

theorem direction_of_left (hr : rightToLeft.contains c = false)
    (ha : arabicNumbers.contains c = false) :
    direction c ≠ .rightToLeft ∧ direction c ≠ .arabicNumber := by
  unfold direction
  rw [hr, ha]
  simp only [Bool.false_eq_true, if_false]
  split
  · exact ⟨by decide, by decide⟩
  · split
    · exact ⟨by decide, by decide⟩
    · split
      · exact ⟨by decide, by decide⟩
      · exact ⟨by decide, by decide⟩

theorem direction_ascii (h : c.toNat < 0x80) :
    direction c ≠ .rightToLeft ∧ direction c ≠ .arabicNumber :=
  direction_of_left (contains_eq_false rightToLeft_range h)
    (contains_eq_false arabicNumbers_range h)

/-- A text without joiners has each of them in its place. -/
theorem joinersStand_plain (h : ∀ c ∈ cs, c ≠ '\u200C' ∧ c ≠ '\u200D') :
    joinersStand before cs = true := by
  induction cs generalizing before with
  | nil => rfl
  | cons c cs ih =>
    obtain ⟨hn, hj⟩ := h c List.mem_cons_self
    rw [joinersStand, ih fun d hd => h d (List.mem_cons_of_mem c hd)]
    simp [hn, hj]

theorem joinersStand_ascii (h : ∀ c ∈ cs, c.toNat < 0x80) : joinersStand before cs = true := by
  refine joinersStand_plain fun c hc => ?_
  constructor <;> (rintro rfl; exact absurd (h _ hc) (by decide))

/-! ### Taking apart -/

/-- A character with which nothing is done in composing. -/
structure Inert (c : Char) : Prop where
  parts_eq : parts c = [c]
  class_eq : combiningClass c = 0
  apart (a : Char) : whole? a c = none

theorem parts_ascii (h : c.toNat < 0x80) : parts c = [c] :=
  if_pos (by omega)

theorem flatMap_parts (h : ∀ c ∈ cs, Inert c) : cs.flatMap parts = cs := by
  induction cs with
  | nil => rfl
  | cons c cs ih =>
    rw [List.flatMap_cons, (h c List.mem_cons_self).parts_eq,
      ih fun d hd => h d (List.mem_cons_of_mem c hd)]
    rfl

theorem mem_flatMap_parts (hc : c.toNat < 0x80) (h : c ∈ cs) : c ∈ cs.flatMap parts :=
  List.mem_flatMap.mpr ⟨c, h, by rw [parts_ascii hc]; exact List.mem_singleton_self c⟩

theorem combiningClass_ascii (h : c.toNat < 0x80) : combiningClass c = 0 :=
  if_pos (by omega)

theorem placeMark_inert (h : Inert c) : placeMark c before = c :: before := by
  cases before with
  | nil => rfl
  | cons d before => rw [placeMark, if_neg fun hm => hm.1 h.class_eq]

theorem placeMark_perm (c : Char) (before : List Char) :
    (placeMark c before).Perm (c :: before) := by
  induction before with
  | nil => exact List.Perm.refl _
  | cons d before ih =>
    rw [placeMark]
    split
    · exact (ih.cons d).trans (List.Perm.swap c d before)
    · exact List.Perm.refl _

theorem foldl_placeMark_perm (cs before : List Char) :
    (cs.foldl (fun before c => placeMark c before) before).Perm (cs ++ before) := by
  induction cs generalizing before with
  | nil => exact List.Perm.refl _
  | cons c cs ih =>
    have hp : (cs ++ placeMark c before).Perm (cs ++ c :: before) :=
      (placeMark_perm c before).append_left cs
    exact (ih (placeMark c before)).trans (hp.trans List.perm_middle)

theorem mem_orderMarks : c ∈ orderMarks cs ↔ c ∈ cs := by
  rw [orderMarks, List.mem_reverse, (foldl_placeMark_perm cs []).mem_iff, List.append_nil]

theorem foldl_placeMark_inert (h : ∀ c ∈ cs, Inert c) :
    cs.foldl (fun before c => placeMark c before) before = cs.reverse ++ before := by
  induction cs generalizing before with
  | nil => rfl
  | cons c cs ih =>
    rw [List.foldl_cons, placeMark_inert (h c List.mem_cons_self),
      ih fun d hd => h d (List.mem_cons_of_mem c hd)]
    simp

theorem orderMarks_inert (h : ∀ c ∈ cs, Inert c) : orderMarks cs = cs := by
  rw [orderMarks, foldl_placeMark_inert h, List.append_nil, List.reverse_reverse]

/-! ### Putting together -/

theorem offsetIn_eq_none {first count n : Nat} (h : n < first ∨ first + count ≤ n) :
    offsetIn first count n = none :=
  if_neg (by omega)

/-- Syllables are made of consonants and vowels. -/
theorem joinSyllable_eq_none {a b : Nat}
    (h : a < firstLead ∨ b < firstMark ∨ noTrail + trailCount ≤ b) : joinSyllable a b = none := by
  unfold joinSyllable
  obtain h | h := h
  · have hs : a < firstSyllable := Nat.lt_trans h (by decide)
    rw [offsetIn_eq_none (.inl h), offsetIn_eq_none (.inl hs)]
  · have hv : b < firstVowel ∨ firstVowel + vowelCount ≤ b :=
      h.imp (Nat.lt_trans · (by decide)) (Nat.le_trans (by decide) ·)
    have ht : b < noTrail ∨ noTrail + trailCount ≤ b := h.imp_left (Nat.lt_trans · (by decide))
    rw [offsetIn_eq_none hv, offsetIn_eq_none ht]
    cases offsetIn firstLead leadCount a <;> cases offsetIn firstSyllable syllableCount a <;> rfl

/-- Nothing is put onto an ASCII character, or onto anything else, but a mark. -/
theorem whole?_ascii (h : b.toNat < 0x80) : whole? a b = none := by
  rw [whole?, joinSyllable_eq_none (.inr (.inl (Nat.lt_trans h (by decide))))]
  simp only [Option.map_eq_none_iff, List.find?_eq_none]
  intro p hp hpb
  have hm := (pair_spec hp).1
  simp only [firstMark, decide_eq_true_eq] at hm hpb
  omega

theorem whole?_standsAlone (h : standsAlone a = true) : whole? a b = none := by
  have ha : a.toNat < 0x80 := ascii_of_standsAlone h
  rw [whole?, joinSyllable_eq_none (Or.inl (Nat.lt_trans ha (by decide)))]
  simp only [Option.map_eq_none_iff, List.find?_eq_none]
  intro p hp hpa
  simp only [decide_eq_true_eq] at hpa
  obtain hb | hb := (pair_spec hp).2
  · omega
  · rw [hpa.1, Char.ofNat_toNat, h] at hb
    cases hb

theorem compose_inert (h : ∀ d ∈ rest, Inert d) :
    compose before c [] rest = before.reverse ++ c :: rest := by
  induction rest generalizing before c with
  | nil => simp [compose]
  | cons d rest ih =>
    have hd : Inert d := h d List.mem_cons_self
    rw [compose, hd.apart, ite_self]
    simp only [hd.class_eq, if_true, List.nil_append]
    rw [ih fun e he => h e (List.mem_cons_of_mem d he)]
    simp

/-- A text of nothing but inert characters is in composed form. -/
theorem composed_inert (h : ∀ c ∈ cs, Inert c) : composed cs = cs := by
  have hd : decomposed cs = cs := by
    rw [decomposed, flatMap_parts h, flatMap_parts h, flatMap_parts h]
  rw [composed, hd, orderMarks_inert h]
  cases cs with
  | nil => rfl
  | cons c cs => exact compose_inert fun d hd => h d (List.mem_cons_of_mem c hd)

theorem inert_ascii (h : c.toNat < 0x80) : Inert c :=
  ⟨parts_ascii h, combiningClass_ascii h, fun _ => whole?_ascii h⟩

/-- ASCII text is in composed form. -/
theorem composed_ascii (h : ∀ c ∈ cs, c.toNat < 0x80) : composed cs = cs :=
  composed_inert fun c hc => inert_ascii (h c hc)

theorem mem_compose (ha : standsAlone a = true) (h : a ∈ marks ∨ a = c ∨ a ∈ before ∨ a ∈ rest) :
    a ∈ compose before c marks rest := by
  have hascii : a.toNat < 0x80 := ascii_of_standsAlone ha
  induction rest generalizing before c marks with
  | nil => simpa [compose, or_assoc, or_comm, or_left_comm] using h
  | cons d rest ih =>
    rw [compose]
    split
    · rename_i whole hw
      have hw : whole? c d = some whole := by
        split at hw
        · cases hw
        · exact hw
      -- neither the character nor what is put onto it can be one that stands alone
      have hc : a ≠ c := by
        rintro rfl
        rw [whole?_standsAlone ha] at hw
        cases hw
      have hd : a ≠ d := by
        rintro rfl
        rw [whole?_ascii hascii] at hw
        cases hw
      refine ih ?_
      simp only [List.mem_cons, hc, hd, false_or] at h
      tauto
    · split
      · refine ih ?_
        simp only [List.mem_cons, List.mem_append, List.not_mem_nil, false_or] at h ⊢
        tauto
      · refine ih ?_
        simp only [List.mem_cons] at h ⊢
        tauto

/-- A character that stands alone is not lost in composing. -/
theorem mem_composed (ha : standsAlone a = true) (h : a ∈ cs) : a ∈ composed cs := by
  have hascii : a.toNat < 0x80 := ascii_of_standsAlone ha
  have hd : a ∈ orderMarks (decomposed cs) :=
    mem_orderMarks.mpr
      (mem_flatMap_parts hascii (mem_flatMap_parts hascii (mem_flatMap_parts hascii h)))
  rw [composed]
  split
  · rename_i hn
    rw [hn] at hd
    cases hd
  · rename_i c rest hn
    rw [hn] at hd
    refine mem_compose ha ?_
    obtain rfl | hr := List.mem_cons.mp hd
    · exact Or.inr (Or.inl rfl)
    · exact Or.inr (Or.inr (Or.inr hr))

end Conformance.Text
