import Conformance.Proofs.Url.Again
import Conformance.Proofs.Url.Length

/-! Ideographs stand in a name as they are: no row of a table is about one of them. -/
namespace Conformance.Url

open Text (CodePoints Pair ClassRow Inert codeRange inRange tableWords direction)

variable {c : Char} {cs : List Char} {table : List String} {range : Nat × Nat}
  {read : List Char → Nat × Nat}

/-- The block of the unified ideographs. -/
structure IsIdeograph (c : Char) : Prop where
  first : 0x4E00 ≤ c.toNat
  last : c.toNat ≤ 0x9FFF

/-- The whole range lies before the block or behind it. -/
def isBeside (range : Nat × Nat) : Bool :=
  range.2 < 0x4E00 || 0x9FFF < range.1

theorem inRange_ideograph (h : isBeside range = true) (hc : IsIdeograph c) :
    inRange range c.toNat = false := by
  obtain ⟨hfirst, hlast⟩ := hc
  simp only [isBeside, inRange, Bool.or_eq_true, decide_eq_true_eq, Bool.and_eq_false_iff,
    decide_eq_false_iff_not] at h ⊢
  omega

/-! ### What the tables hold -/

/-- No row is about an ideograph, where `read` gives what a row is about. -/
def Beside (table : List String) (read : List Char → Nat × Nat) : Prop :=
  ∀ word ∈ tableWords table, isBeside (read word) = true

-- line by line, so that no term is large that is decided
section
set_option maxRecDepth 10000

theorem ranges_beside : ∀ table ∈ [ignoredTable, refusedTable, Text.hiddenTable,
    Text.nonspacingTable, Text.spacingTable, Text.rightToLeftTable, Text.arabicNumberTable],
    Beside table codeRange := by
  unfold ignoredTable refusedTable Text.hiddenTable Text.nonspacingTable Text.spacingTable
    Text.rightToLeftTable Text.arabicNumberTable
  repeat
    refine List.forall_mem_cons.mpr ⟨Text.forall_tableWords ?_, ?_⟩
    · repeat refine List.forall_mem_cons.mpr ⟨by rw [String.toList_ofList]; decide +kernel, ?_⟩
      nofun
  nofun

theorem classes_beside : Beside Text.classTable fun row => (ClassRow.read row).range := by
  refine Text.forall_tableWords ?_
  unfold Text.classTable
  repeat refine List.forall_mem_cons.mpr ⟨by rw [String.toList_ofList]; decide +kernel, ?_⟩
  nofun

theorem folds_beside : Beside foldTable fun row =>
    ((Fold.read row).first, (Fold.read row).last) := by
  refine Text.forall_tableWords ?_
  unfold foldTable
  repeat refine List.forall_mem_cons.mpr ⟨by rw [String.toList_ofList]; decide +kernel, ?_⟩
  nofun

theorem wholes_beside : Beside Text.pairTable fun row =>
    ((Pair.read row).whole, (Pair.read row).whole) := by
  refine Text.forall_tableWords ?_
  unfold Text.pairTable
  repeat refine List.forall_mem_cons.mpr ⟨by rw [String.toList_ofList]; decide +kernel, ?_⟩
  nofun

theorem marks_beside : Beside Text.pairTable fun row =>
    ((Pair.read row).mark, (Pair.read row).mark) := by
  refine Text.forall_tableWords ?_
  unfold Text.pairTable
  repeat refine List.forall_mem_cons.mpr ⟨by rw [String.toList_ofList]; decide +kernel, ?_⟩
  nofun

end

theorem Beside.inRange_eq_false (h : Beside table read) (hc : IsIdeograph c) {word : List Char}
    (hw : word ∈ tableWords table) : inRange (read word) c.toNat = false :=
  inRange_ideograph (h word hw) hc

theorem contains_ideograph (h : Beside table codeRange) (hc : IsIdeograph c) :
    (CodePoints.read table).contains c = false := by
  refine List.any_eq_false.mpr fun range hr => ?_
  obtain ⟨word, hw, rfl⟩ := List.mem_map.mp hr
  simp [h.inRange_eq_false hc hw]

/-! ### One ideograph -/

theorem foldChar_ideograph (hc : IsIdeograph c) : foldChar c = [c] := by
  have hignored : ignored.contains c = false :=
    contains_ideograph (ranges_beside _ (by simp)) hc
  have hfolds : folds.find? (·.covers c.toNat) = none := by
    refine List.find?_eq_none.mpr fun f hf => ?_
    obtain ⟨word, hw, rfl⟩ := List.mem_map.mp hf
    have hin := folds_beside.inRange_eq_false hc hw
    simp only [inRange] at hin
    simp [Fold.covers, hin]
  obtain ⟨hfirst, _⟩ := hc
  rw [foldChar, if_neg (by omega), hignored, hfolds]
  rfl

theorem isLabelChar_ideograph (hc : IsIdeograph c) : isLabelChar c = true := by
  have hhidden : Text.hidden.contains c = false :=
    contains_ideograph (ranges_beside _ (by simp)) hc
  have hrefused : refused.contains c = false :=
    contains_ideograph (ranges_beside _ (by simp)) hc
  have hfold := foldChar_ideograph hc
  obtain ⟨hfirst, _⟩ := hc
  have hascii : ¬ c.toNat < 0x80 := by omega
  simp [isLabelChar, Punycode.isAscii, hascii, isFolded, Text.isPrintable, hhidden, hrefused, hfold]

theorem isMark_ideograph (hc : IsIdeograph c) : Text.isMark c = false := by
  have hnonspacing : Text.nonspacing.contains c = false :=
    contains_ideograph (ranges_beside _ (by simp)) hc
  have hspacing : Text.spacing.contains c = false :=
    contains_ideograph (ranges_beside _ (by simp)) hc
  rw [Text.isMark, hnonspacing, hspacing]
  rfl

theorem direction_ideograph (hc : IsIdeograph c) :
    direction c ≠ .rightToLeft ∧ direction c ≠ .arabicNumber :=
  Text.direction_of_left (contains_ideograph (ranges_beside _ (by simp)) hc)
    (contains_ideograph (ranges_beside _ (by simp)) hc)

theorem inert_ideograph (hc : IsIdeograph c) : Inert c where
  parts_eq := by
    have hpairs : Text.pairs.find? (·.whole = c.toNat) = none := by
      refine List.find?_eq_none.mpr fun p hp => ?_
      obtain ⟨word, hw, rfl⟩ := List.mem_map.mp hp
      have hin := wholes_beside.inRange_eq_false hc hw
      simp only [inRange, Bool.and_eq_false_iff, decide_eq_false_iff_not] at hin
      simp only [decide_eq_true_eq]
      omega
    obtain ⟨hfirst, hlast⟩ := hc
    have hsyllable : Text.splitSyllable c.toNat = none := by
      rw [Text.splitSyllable, Text.offsetIn_eq_none (.inl (Nat.lt_of_le_of_lt hlast (by decide)))]
      rfl
    rw [Text.parts, if_neg (by omega), hsyllable, hpairs]
  class_eq := by
    have hrows : Text.classRows.find? (fun row => inRange row.range c.toNat) = none := by
      refine List.find?_eq_none.mpr fun row hr => ?_
      obtain ⟨word, hw, rfl⟩ := List.mem_map.mp hr
      simp [classes_beside.inRange_eq_false hc hw]
    rw [Text.combiningClass, hrows]
    split <;> rfl
  apart a := by
    have hpairs : Text.pairs.find? (fun p => p.base = a.toNat ∧ p.mark = c.toNat) = none := by
      refine List.find?_eq_none.mpr fun p hp => ?_
      obtain ⟨word, hw, rfl⟩ := List.mem_map.mp hp
      have hin := marks_beside.inRange_eq_false hc hw
      simp only [inRange, Bool.and_eq_false_iff, decide_eq_false_iff_not] at hin
      simp only [decide_eq_true_eq]
      omega
    have hsyllable : Text.joinSyllable a.toNat c.toNat = none :=
      Text.joinSyllable_eq_none (.inr (.inr (Nat.le_trans (by decide) hc.first)))
    rw [Text.whole?, hsyllable, hpairs]
    rfl

/-! ### Names in ideographs -/

section Names

variable (h : ∀ c ∈ cs, IsIdeograph c)
include h

theorem not_mem_ideographs {d : Char} (hd : d.toNat < 0x4E00) : d ∉ cs := by
  intro hm
  have := (h d hm).first
  omega

theorem isLabel_ideographs (hl : cs.length ≤ longestLabel) : isLabel cs = true := by
  have hchars : cs.all isLabelChar = true :=
    List.all_eq_true.mpr fun c hc => isLabelChar_ideograph (h c hc)
  have hmark : cs.head?.any Text.isMark = false := by
    cases cs with
    | nil => rfl
    | cons c more => exact isMark_ideograph (h c List.mem_cons_self)
  have hcomposed : Text.composed cs = cs :=
    Text.composed_inert fun c hc => inert_ideograph (h c hc)
  have hjoiners : Text.joinersStand [] cs = true := by
    refine Text.joinersStand_plain fun c hc => ⟨?_, ?_⟩
    · rintro rfl
      exact not_mem_ideographs h (by decide) hc
    · rintro rfl
      exact not_mem_ideographs h (by decide) hc
  rw [isLabel, hchars, hmark, hcomposed, hjoiners, decide_eq_true hl]
  simp

/-- A name of one label in ideographs. -/
theorem domainToAscii_ideographs (hl : cs.length ≤ longestLabel) :
    domainToAscii (utf8 cs) = some (writeLabel cs) := by
  have hfold : cs.flatMap foldChar = cs :=
    (List.flatMap_congr fun c hc => foldChar_ideograph (h c hc)).trans (List.flatMap_singleton' cs)
  have hcomposed : Text.composed cs = cs :=
    Text.composed_inert fun c hc => inert_ideograph (h c hc)
  have hprefix : encodedMark.isPrefixOf cs = false := by
    refine Bool.eq_false_iff.mpr fun hp => ?_
    obtain ⟨more, rfl⟩ := List.isPrefixOf_iff_prefix.mp hp
    exact not_mem_ideographs h (d := 'x') (by decide) (by simp [encodedMark])
  have hread : readLabel cs = some cs := by
    rw [readLabel, hprefix, isLabel_ideographs h hl]
    rfl
  refine domainToAscii_eq_some.mpr ⟨cs, [cs], ofUtf8?_utf8 cs, ?_, ?_, rfl⟩
  · rw [hfold, hcomposed, Text.splitAt_of_not_mem (not_mem_ideographs h (by decide))]
    simp [hread]
  · have hleft : isFromRight cs = false :=
      isFromRight_of_left fun c hc => direction_ideograph (h c hc)
    simp [hleft]

theorem writeLabel_ideographs (hne : cs ≠ []) :
    writeLabel cs = encodedMark ++ Punycode.encode cs := by
  refine if_neg fun ha => ?_
  obtain ⟨c, more, rfl⟩ := List.exists_cons_of_ne_nil hne
  have hc : c.toNat < 0x80 := of_decide_eq_true (List.all_eq_true.mp ha c List.mem_cons_self)
  have := (h c List.mem_cons_self).first
  omega

theorem not_mem_writeLabel_ideographs (hl : cs.length ≤ longestLabel) : '.' ∉ writeLabel cs :=
  fun hm => not_mem_ideographs h (by decide) ((mem_writeLabel (isLabel_ideographs h hl) hm).2 rfl)

/-- The host that a name in ideographs stands for. -/
theorem readHost_ideographs (hne : cs ≠ []) (hl : cs.length ≤ longestLabel) :
    readHost cs = .ok (.domain (encodedMark ++ Punycode.encode cs)) := by
  have hwritten := writeLabel_ideographs h hne
  have hnumber : endsInNumber (writeLabel cs) = false := by
    rw [endsInNumber, dottedParts, Text.splitAt_of_not_mem (not_mem_writeLabel_ideographs h hl),
      hwritten]
    rfl
  have hhead : cs.head? ≠ some '[' := fun hb =>
    not_mem_ideographs h (d := '[') (by decide) (List.mem_of_mem_head? hb)
  have hname : writeLabel cs ≠ [] := by
    rw [hwritten]
    exact List.cons_ne_nil _ _
  rw [readHost_eq hhead (not_mem_ideographs h (by decide)) hname (domainToAscii_ideographs h hl),
    hnumber, hwritten]
  rfl

end Names

/-! ### Ideographs far apart -/

/-- Some ideographs, as far apart as any thousand of them can be. -/
def spread (n : Nat) : List Char :=
  (List.range n).map fun i => Char.ofNat (0x4E00 + 20 * i)

variable {n : Nat}

@[simp] theorem length_spread : (spread n).length = n := by
  simp [spread]

theorem toNat_spread {i : Nat} (hi : i < longestLabel) :
    (Char.ofNat (0x4E00 + 20 * i)).toNat = 0x4E00 + 20 * i := by
  have hv : (0x4E00 + 20 * i).isValidChar := .inl (by simp only [longestLabel] at hi; omega)
  rw [Char.ofNat, dif_pos hv]
  rfl

theorem spread_ideographs (hn : n ≤ longestLabel) : ∀ c ∈ spread n, IsIdeograph c := by
  intro c hc
  obtain ⟨i, hi, rfl⟩ := List.mem_map.mp hc
  have hi : i < longestLabel := Nat.lt_of_lt_of_le (List.mem_range.mp hi) hn
  rw [longestLabel] at hi
  constructor <;> rw [toNat_spread hi] <;> omega

theorem spread_apart (hn : n ≤ longestLabel) :
    (spread n).Pairwise fun a b => a.toNat + 20 ≤ b.toNat := by
  refine List.pairwise_map.mpr (List.pairwise_lt_range.imp_of_mem fun {i j} hi hj hij => ?_)
  rw [toNat_spread (Nat.lt_of_lt_of_le (List.mem_range.mp hi) hn),
    toNat_spread (Nat.lt_of_lt_of_le (List.mem_range.mp hj) hn)]
  omega

/-- A label that may be written, but not read as it is written. -/
theorem not_isShort_spread (hn : n ≤ longestLabel) (hlong : 714 ≤ n) :
    ¬ (Host.domain (encodedMark ++ Punycode.encode (spread n))).IsShort := by
  intro hshort
  have hall := spread_ideographs hn
  have hne : spread n ≠ [] := List.ne_nil_of_length_pos (by rw [length_spread]; omega)
  have hdot := not_mem_writeLabel_ideographs hall (by simpa using hn)
  rw [writeLabel_ideographs hall hne] at hdot
  rw [Host.IsShort, Text.splitAt_of_not_mem hdot] at hshort
  have hencoding := hshort _ (List.mem_singleton_self _) _ rfl
  have hlength := Punycode.length_encode
    (fun c hc => Nat.le_trans (by decide) (hall c hc).first) (spread_apart hn)
  rw [length_spread, Punycode.enough] at hlength
  rw [longestEncoding] at hencoding
  omega

end Conformance.Url
