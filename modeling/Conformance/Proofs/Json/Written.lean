import Conformance.Proofs.Json.Canonical
import Conformance.Proofs.Json.Layout
import Conformance.Proofs.Json.Nesting
import Conformance.Proofs.Text.Digit

/-! What is written is read back, with the members of objects in order, whatever the layout. -/
namespace Conformance.Json

open Text (Rest Remainder cutAfter)

variable {α β : Type} {s t u : List Char} {l : Layout}

/-- A reader finds `a` and stops where `t` begins. -/
def Reads {p : List Char → Prop} (x : Except Stop (α × Subtype p)) (a : α) (t : List Char) :
    Prop :=
  ∃ left, x = .ok (a, left) ∧ left.val = t

namespace Reads

variable {p q : List Char → Prop}

theorem bind {x : Except Stop (α × Subtype p)} {f : α × Subtype p → Except Stop (β × Subtype q)}
    {a : α} {b : β} (h : Reads x a t) (hf : ∀ left, left.val = t → Reads (f (a, left)) b u) :
    Reads (x >>= f) b u := by
  obtain ⟨left, rfl, hl⟩ := h
  exact hf left hl

theorem ok {a : α} {left : Subtype p} (h : left.val = t) :
    Reads (.ok (a, left)) a t :=
  ⟨left, rfl, h⟩

theorem after {γ : Type} {x : Except Stop γ} {f : γ → Except Stop (α × Subtype p)} {c : γ} {a : α}
    (hx : x = .ok c) (h : Reads (f c) a t) : Reads (x >>= f) a t := by
  rw [hx]
  exact h

end Reads

/-! ### Strings -/

theorem ofDigits_control {n : Nat} (h : n < 0x20) :
    Text.ofDigits 16 ['0', '0', Text.hexDigit (n / 16), Text.hexDigit (n % 16)] = some n := by
  have hall : ∀ n < 0x20,
      Text.ofDigits 16 ['0', '0', Text.hexDigit (n / 16), Text.hexDigit (n % 16)] = some n := by
    decide
  exact hall n h

/-- Four digits stand for a control character. -/
theorem reads_controlEscape {c : Char} (hc : c.toNat < 0x20) (t : List Char) :
    Reads (escape ('u' :: '0' :: '0' :: Text.hexDigit (c.toNat / 16)
      :: Text.hexDigit (c.toNat % 16) :: t)) c t := by
  have hlow : ¬ 0xDC00 ≤ c.toNat := by omega
  have hhigh : ¬ 0xD800 ≤ c.toNat := by omega
  refine ⟨⟨t, by simp; omega⟩, ?_, rfl⟩
  simp [escape, unicodeEscape, utf16Unit, ofDigits_control hc, hlow, hhigh, bind, Except.bind,
    pure, Except.pure, Char.ofNat_toNat]
  rfl

/-- A character is written as itself, or behind a backslash that leads back to it. -/
theorem escapedChar_cases (c : Char) :
    (escapedChar c = [c] ∧ c ≠ '"' ∧ c ≠ '\\' ∧ ¬ c.toNat < 0x20) ∨
      ∃ e, escapedChar c = '\\' :: e ∧ ∀ t, Reads (escape (e ++ t)) c t := by
  unfold escapedChar
  split_ifs with hmark hb ht hn hf hr hcontrol
  · obtain rfl | rfl := hmark <;> exact Or.inr ⟨_, rfl, fun t => .ok rfl⟩
  · exact hb ▸ Or.inr ⟨_, rfl, fun t => .ok rfl⟩
  · exact ht ▸ Or.inr ⟨_, rfl, fun t => .ok rfl⟩
  · exact hn ▸ Or.inr ⟨_, rfl, fun t => .ok rfl⟩
  · exact hf ▸ Or.inr ⟨_, rfl, fun t => .ok rfl⟩
  · exact hr ▸ Or.inr ⟨_, rfl, fun t => .ok rfl⟩
  · exact Or.inr ⟨_, rfl, reads_controlEscape hcontrol⟩
  · obtain ⟨hq, hs⟩ := not_or.mp hmark
    exact Or.inl ⟨rfl, hq, hs, hcontrol⟩

theorem reads_stringBody (cs t : List Char) :
    Reads (stringBody (cs.flatMap escapedChar ++ '"' :: t)) cs t := by
  induction cs with
  | nil =>
    rw [List.flatMap_nil, List.nil_append, stringBody]
    exact .ok rfl
  | cons c cs ih =>
    rw [List.flatMap_cons, List.append_assoc]
    obtain ⟨hc, hq, hb, hs⟩ | ⟨e, hc, he⟩ := escapedChar_cases c
    · rw [hc, List.singleton_append, stringBody]
      simp only [hq, hb, hs, if_false]
      exact ih.bind fun left hl => .ok hl
    · rw [hc, List.cons_append, stringBody]
      simp only [if_true, Char.reduceEq, if_false]
      refine (he _).bind fun left hl => ?_
      have ih : Reads (stringBody left.val) cs t := by rw [hl]; exact ih
      exact ih.bind fun left hl => .ok hl

theorem reads_stringText (text : String) (t : List Char) :
    Reads (stringText (text.toList.flatMap escapedChar ++ '"' :: t)) text t := by
  refine (reads_stringBody _ t).bind fun left hl => ?_
  simp only [String.ofList_toList]
  exact .ok hl

theorem writeString_eq (text : String) (t : List Char) :
    writeString text ++ t = '"' :: (text.toList.flatMap escapedChar ++ '"' :: t) := by
  simp [writeString]

/-! ### Numbers -/

/-- No number goes on like this. -/
def EndsNumber (t : List Char) : Prop :=
  ∀ c ∈ t.head?, c.isDigit = false ∧ c ≠ '.' ∧ c ≠ 'e' ∧ c ≠ 'E'

theorem endsNumber_cons {c : Char} (hd : c.isDigit = false)
    (hc : c ≠ '.' ∧ c ≠ 'e' ∧ c ≠ 'E') (t : List Char) : EndsNumber (c :: t) := by
  rintro _ ⟨⟩
  exact ⟨hd, hc⟩

theorem endsNumber_append {blank : List Char} (hb : ∀ c ∈ blank, isSpace c = true)
    (ht : EndsNumber t) : EndsNumber (blank ++ t) := by
  cases blank with
  | nil => exact ht
  | cons c blank =>
    have hc := hb c List.mem_cons_self
    simp only [isSpace, Bool.or_eq_true, decide_eq_true_eq] at hc
    obtain ((rfl | rfl) | rfl) | rfl := hc <;> exact endsNumber_cons (by decide) (by decide) _

/-- What stands behind the last value ends it, if it was a number. -/
theorem endsNumber_closing (l : Layout) {closing : Char} (hc : closing = ']' ∨ closing = '\x7d')
    (level : Nat) (t : List Char) : EndsNumber (l.line level ++ closing :: t) := by
  refine endsNumber_append (l.line_blank level) ?_
  obtain rfl | rfl := hc <;> exact endsNumber_cons (by decide) (by decide) t

/-- Digits are taken in one by one while their value fits. -/
theorem absorb_eq {ds : List Char} {start : Nat}
    (h : Nat.ofDigitChars 10 ds start < UInt64.size) :
    absorb start ds = (Nat.ofDigitChars 10 ds start, []) := by
  induction ds generalizing start with
  | nil => rw [absorb, Nat.ofDigitChars_nil]
  | cons d ds ih =>
    have hcomm : 10 * start + (d.toNat - '0'.toNat) = start * 10 + digitValue d := by
      rw [digitValue, Nat.mul_comm]
    rw [Nat.ofDigitChars_cons, hcomm] at h ⊢
    have hnext : start * 10 + digitValue d ≤
        Nat.ofDigitChars 10 ds (start * 10 + digitValue d) := by
      rw [Nat.ofDigitChars_eq_ofDigitChars_zero]
      exact Nat.le_add_right_of_le (Nat.le_mul_of_pos_left _ (Nat.pow_pos (by decide)))
    simp only [absorb, Nat.lt_of_le_of_lt hnext h, if_true]
    exact ih h

theorem reads_afterDigits {negative : Bool} {n : Nat} {number : Number} (ht : EndsNumber t)
    (hw : wholeNumber negative n t = .ok number) :
    Reads (afterDigits negative n 0 t) number t := by
  have hend : afterDigits negative n 0 t = .ok (number, .whole t) := by
    unfold afterDigits
    split
    · exact absurd rfl (ht _ rfl).2.1
    · exact absurd rfl (ht _ rfl).2.2.1
    · exact absurd rfl (ht _ rfl).2.2.2
    · simp [hw, bind, Except.bind, pure, Except.pure]
  rw [hend]
  exact .ok rfl

theorem reads_numeral {negative : Bool} {n : Nat} {number : Number} (hn : n < UInt64.size)
    (ht : EndsNumber t) (hw : wholeNumber negative n t = .ok number) :
    Reads (numeral negative (Nat.toDigits 10 n ++ t)) number t := by
  obtain ⟨c, ds, hd⟩ := List.exists_cons_of_ne_nil (Nat.toDigits_ne_nil (b := 10) (n := n))
  have hdigit : ∀ d ∈ c :: ds, d.isDigit = true := fun d hm =>
    Text.isDigit_of_mem_toDigits (n := n) (hd ▸ hm)
  obtain ⟨hc, hds⟩ := List.forall_mem_cons.mp hdigit
  have hstop : t.takeWhile Char.isDigit = [] ∧ t.dropWhile Char.isDigit = t := by
    cases t with
    | nil => exact ⟨rfl, rfl⟩
    | cons d t => simp [(ht d rfl).1]
  have htake : (ds ++ t).takeWhile Char.isDigit = ds := by
    rw [List.takeWhile_append_of_pos hds, hstop.1, List.append_nil]
  have hdrop : (Remainder.dropWhile Char.isDigit (ds ++ t)).val = t := by
    change (ds ++ t).dropWhile Char.isDigit = t
    rw [List.dropWhile_append_of_pos hds, hstop.2]
  have habsorb : absorb 0 (c :: ds) = (n, []) := by
    have hvalue : Nat.ofDigitChars 10 (c :: ds) 0 = n := by
      rw [← hd, Nat.ofDigitChars_ten_toDigits]
    rw [absorb_eq (by rw [hvalue]; exact hn), hvalue]
  have hzero : ¬ (c = '0' ∧ ¬ ds.isEmpty) := by
    rintro ⟨rfl, hne⟩
    exact hne (by rw [Text.toDigits_eq_cons_zero hd]; rfl)
  rw [hd, List.cons_append, numeral]
  simp only [htake, hc, not_true, if_false, hzero, habsorb, List.length_nil]
  have hafter : Reads (afterDigits negative n 0 (Remainder.dropWhile Char.isDigit (ds ++ t)).val)
      number t := by
    rw [hdrop]
    exact reads_afterDigits ht hw
  exact hafter.bind fun left hl => .ok hl

/-- Integers of 64 bits, with or without sign. -/
def Fits64 (n : Int) : Prop :=
  Int64.minValue.toInt ≤ n ∧ n < UInt64.size

theorem reads_int {inner : Option ((s : List Char) → Reading Json s)} {n : Int} (hn : Fits64 n)
    (ht : EndsNumber t) :
    Reads (valueIn inner (writeInt n ++ t)) (.number (.integer n)) t := by
  obtain ⟨hmin, hmax⟩ := hn
  have hlow : Int64.minValue.toInt = -9223372036854775808 := rfl
  have hsize : UInt64.size = 18446744073709551616 := rfl
  have habs : n.natAbs < UInt64.size := by omega
  by_cases hneg : n < 0
  · have hw : wholeNumber true n.natAbs t = .ok (.integer n) := by
      have habs' : 0 < n.natAbs ∧ Int64.minValue.toInt ≤ -(n.natAbs : Int) := by omega
      have hback : -(n.natAbs : Int) = n := by omega
      rw [wholeNumber, if_neg (by simp), if_pos habs', hback]
    rw [writeInt, if_pos hneg]
    exact (reads_numeral habs ht hw).bind fun left hl => .ok hl
  · have hw : wholeNumber false n.natAbs t = .ok (.integer n) := by
      have hback : (n.natAbs : Int) = n := by omega
      rw [wholeNumber, if_pos (by simp), hback]
    have hread := reads_numeral habs ht hw
    obtain ⟨c, ds, hd⟩ := List.exists_cons_of_ne_nil (Nat.toDigits_ne_nil (b := 10) (n := n.natAbs))
    have hc : c.isDigit = true :=
      Text.isDigit_of_mem_toDigits (n := n.natAbs) (hd ▸ List.mem_cons_self)
    rw [hd, List.cons_append] at hread
    rw [writeInt, if_neg hneg, hd, List.cons_append]
    have hne : ∀ d : Char, d.isDigit = false → c ≠ d := by
      rintro d hf rfl
      rw [hc] at hf
      cases hf
    have hbracket : c ≠ '"' ∧ c ≠ '[' ∧ c ≠ '\x7b' ∧ c ≠ '-' :=
      ⟨hne _ (by decide), hne _ (by decide), hne _ (by decide), hne _ (by decide)⟩
    simp only [valueIn, hbracket, hc, if_false, if_true]
    exact hread.bind fun left hl => .ok hl

/-! ### Values -/

/-- Integers of 64 bits are written exactly. -/
def IsWhole : Number → Prop
  | .integer n => Fits64 n
  | .float _ => False

/-- A value with no more than `limit` brackets around anything, and no numbers but such integers. -/
abbrev Fits (limit : Nat) (v : Json) : Prop :=
  Nested IsWhole limit v

theorem fits_ofNat {limit n : Nat} (h : n < UInt64.size) : Fits limit (.ofNat n) :=
  .number ⟨Int.le_trans (by decide : Int64.minValue.toInt ≤ 0) (Int.natCast_nonneg n),
    Int.ofNat_lt.mpr h⟩

theorem skipSpace_append {blank : List Char} (hb : ∀ c ∈ blank, isSpace c = true) {c : Char}
    (hc : isSpace c = false) (t : List Char) : (skipSpace (blank ++ c :: t)).val = c :: t := by
  change (blank ++ c :: t).dropWhile isSpace = c :: t
  rw [List.dropWhile_append_of_pos hb, List.dropWhile_cons_of_neg (by simp [hc])]

/-- The first character behind white space is found with what follows it. -/
theorem cutAfter_append {blank : List Char} (hb : ∀ c ∈ blank, isSpace c = true) {c : Char}
    (hc : isSpace c = false) (t : List Char) :
    ∃ rest, cutAfter isSpace (blank ++ c :: t) = some (c, rest) ∧ rest.val = t := by
  have hd : (blank ++ c :: t).dropWhile isSpace = c :: t := skipSpace_append hb hc t
  unfold cutAfter
  dsimp only
  split
  · rename_i he
    cases hd.symm.trans he
  · rename_i d rest he
    obtain ⟨rfl, rfl⟩ := List.cons.inj (hd.symm.trans he)
    exact ⟨_, rfl, rfl⟩

theorem cutAfter_of_eq {blank : List Char} (hb : ∀ c ∈ blank, isSpace c = true) {c : Char}
    (hc : isSpace c = false) (hs : s = blank ++ c :: t) :
    ∃ rest, cutAfter isSpace s = some (c, rest) ∧ rest.val = t := by
  subst hs
  exact cutAfter_append hb hc t

theorem skipSpace_of_eq {blank : List Char} (hb : ∀ c ∈ blank, isSpace c = true) {c : Char}
    (hc : isSpace c = false) (hs : s = blank ++ c :: t) : (skipSpace s).val = c :: t := by
  rw [hs, skipSpace_append hb hc]

theorem cutAfter_cons {c : Char} (hc : isSpace c = false) (t : List Char) :
    ∃ rest, cutAfter isSpace (c :: t) = some (c, rest) ∧ rest.val = t :=
  cutAfter_append (List.forall_mem_nil _) hc t

/-- White space after a comma is passed over up to anything but the closing bracket. -/
theorem afterComma_append {blank : List Char} (hb : ∀ c ∈ blank, isSpace c = true)
    {c closing : Char} (hc : isSpace c = false) (hne : c ≠ closing) (hs : s = blank ++ c :: t) :
    ∃ start, afterComma closing s = .ok start ∧ start.val = c :: t := by
  have hskip : (skipSpace s).val = c :: t := by rw [hs, skipSpace_append hb hc]
  refine ⟨skipSpace s, ?_, hskip⟩
  unfold afterComma
  rw [hskip]
  simp only [hne, if_false]

/-- A value that `item` reads back from its lines, however deep they are indented. -/
structure ReadsBack (l : Layout) (item : (s : List Char) → Reading Json s) (v : Json) : Prop where
  head : ∀ level, ∃ c rest, l.write level v = c :: rest ∧ isSpace c = false ∧ c ≠ ']'
  back : ∀ level t, EndsNumber t → Reads (item (l.write level v ++ t)) v.canonical t

section Brackets

variable {item : (s : List Char) → Reading Json s}

theorem endsNumber_items (l : Layout) (level : Nat) (items : List Json) (ht : EndsNumber t) :
    EndsNumber (l.writeItems level items ++ t) := by
  cases items with
  | nil => exact ht
  | cons v items => exact endsNumber_cons (by decide) (by decide) _

theorem writeItems_cons (level : Nat) (v : Json) (items : List Json) (t : List Char) :
    l.writeItems level (v :: items) ++ t =
      ',' :: (l.line level ++ (l.write level v ++ (l.writeItems level items ++ t))) := by
  simp [Layout.writeItems]

theorem reads_moreItems {items : List Json} (h : ∀ v ∈ items, ReadsBack l item v)
    (level outer : Nat) (t : List Char) :
    Reads (moreItems item (l.writeItems level items ++ (l.line outer ++ ']' :: t)))
      (canonicalItems items) t := by
  induction items with
  | nil =>
    obtain ⟨rest, hc, hr⟩ := cutAfter_append (l.line_blank outer)
      (by decide : isSpace ']' = false) t
    rw [Layout.writeItems, List.nil_append, moreItems, hc]
    exact .ok hr
  | cons v items ih =>
    obtain ⟨hv, hvs⟩ := List.forall_mem_cons.mp h
    obtain ⟨c, text, htext, hspace, hne⟩ := hv.head level
    -- behind the comma white space is passed over up to the value, which is no closing bracket
    obtain ⟨rest, hc, hr⟩ := cutAfter_cons (by decide : isSpace ',' = false) (l.line level ++
      (l.write level v ++ (l.writeItems level items ++ (l.line outer ++ ']' :: t))))
    obtain ⟨start, hafter, hstart⟩ := afterComma_append (s := rest.val)
      (l.line_blank level) hspace hne
      (hr.trans (by rw [htext, List.cons_append]))
    rw [writeItems_cons, moreItems, hc]
    have hitem := hv.back level _
      (endsNumber_items l level items (endsNumber_closing l (Or.inl rfl) outer t))
    rw [htext, List.cons_append, ← hstart] at hitem
    refine .after hafter (hitem.bind fun left hl => ?_)
    have hmore : Reads (moreItems item left.val) (canonicalItems items) t := by
      rw [hl]
      exact ih hvs
    exact hmore.bind fun last hlast => .ok hlast

theorem reads_items_nil (t : List Char) : Reads (items item (']' :: t)) [] t := by
  obtain ⟨rest, hc, hr⟩ := cutAfter_cons (by decide : isSpace ']' = false) t
  rw [items, hc]
  exact .ok hr

theorem reads_items_cons {v : Json} {vs : List Json} (h : ∀ w ∈ v :: vs, ReadsBack l item w)
    (level outer : Nat) (t : List Char) :
    Reads (items item (l.line level ++ (l.write level v ++
      (l.writeItems level vs ++ (l.line outer ++ ']' :: t))))) (canonicalItems (v :: vs)) t := by
  obtain ⟨hv, hvs⟩ := List.forall_mem_cons.mp h
  obtain ⟨c, text, htext, hspace, hne⟩ := hv.head level
  have hitem := hv.back level _
    (endsNumber_items l level vs (endsNumber_closing l (Or.inl rfl) outer t))
  rw [htext, List.cons_append] at hitem ⊢
  obtain ⟨rest, hc, hr⟩ := cutAfter_append (l.line_blank level) hspace
    (text ++ (l.writeItems level vs ++ (l.line outer ++ ']' :: t)))
  rw [← skipSpace_append (l.line_blank level) hspace] at hitem
  rw [items, hc]
  simp only [hne, if_false]
  refine hitem.bind fun left hl => ?_
  have hmore : Reads (moreItems item left.val) (canonicalItems vs) t := by
    rw [hl]
    exact reads_moreItems hvs level outer t
  exact hmore.bind fun last hlast => .ok hlast

/-- A name, a colon and a value. -/
theorem reads_pair (key : String) {v : Json} (hv : ReadsBack l item v) (level : Nat)
    (ht : EndsNumber t) :
    Reads (pair item (writeString key ++ ':' :: (l.gap ++ (l.write level v ++ t))))
      (key, v.canonical) t := by
  obtain ⟨c, text, htext, hspace, hne⟩ := hv.head level
  have hitem := hv.back level t ht
  rw [htext, List.cons_append] at hitem ⊢
  have hkey := reads_stringText key (':' :: (l.gap ++ c :: (text ++ t)))
  rw [writeString_eq, pair]
  simp only [if_true]
  refine hkey.bind fun afterKey hafter => ?_
  obtain ⟨afterColon, hc, hr⟩ := cutAfter_of_eq (List.forall_mem_nil _)
    (by decide : isSpace ':' = false) hafter
  dsimp only
  rw [hc]
  simp only [if_true]
  rw [← skipSpace_of_eq l.gap_blank hspace hr] at hitem
  exact hitem.bind fun left hl => .ok hl

theorem writeMembers_cons (level : Nat) (key : String) (v : Json) (members : Members)
    (t : List Char) :
    l.writeMembers level ((key, v) :: members) ++ t =
      ',' :: (l.line level ++ (writeString key ++ ':' :: (l.gap ++ (l.write level v ++
        (l.writeMembers level members ++ t))))) := by
  simp [Layout.writeMembers]

theorem endsNumber_members (l : Layout) (level : Nat) (members : Members) (ht : EndsNumber t) :
    EndsNumber (l.writeMembers level members ++ t) := by
  cases members with
  | nil => exact ht
  | cons m members => exact endsNumber_cons (by decide) (by decide) _

theorem reads_morePairs {members : Members} (h : ∀ m ∈ members, ReadsBack l item m.2)
    (level outer : Nat) (t : List Char) :
    Reads (morePairs item (l.writeMembers level members ++ (l.line outer ++ '\x7d' :: t)))
      (canonicalMembers members) t := by
  induction members with
  | nil =>
    obtain ⟨rest, hc, hr⟩ := cutAfter_append (l.line_blank outer)
      (by decide : isSpace '\x7d' = false) t
    rw [Layout.writeMembers, List.nil_append, morePairs, hc]
    exact .ok hr
  | cons m members ih =>
    obtain ⟨key, v⟩ := m
    obtain ⟨hv, hvs⟩ := List.forall_mem_cons.mp h
    have hpair := reads_pair key hv level
      (endsNumber_members l level members (endsNumber_closing l (Or.inr rfl) outer t))
    obtain ⟨rest, hc, hr⟩ := cutAfter_cons (by decide : isSpace ',' = false) (l.line level ++
      (writeString key ++ ':' :: (l.gap ++ (l.write level v ++
        (l.writeMembers level members ++ (l.line outer ++ '\x7d' :: t))))))
    obtain ⟨start, hafter, hstart⟩ := afterComma_append (s := rest.val)
      (l.line_blank level) (by decide : isSpace '"' = false)
      (by decide : '"' ≠ '\x7d') (hr.trans (by rw [writeString_eq]))
    rw [writeMembers_cons, morePairs, hc]
    rw [writeString_eq, ← hstart] at hpair
    refine .after hafter (hpair.bind fun left hl => ?_)
    have hmore : Reads (morePairs item left.val) (canonicalMembers members) t := by
      rw [hl]
      exact ih hvs
    exact hmore.bind fun last hlast => .ok hlast

theorem reads_pairs_nil (t : List Char) : Reads (pairs item ('\x7d' :: t)) [] t := by
  obtain ⟨rest, hc, hr⟩ := cutAfter_cons (by decide : isSpace '\x7d' = false) t
  rw [pairs, hc]
  exact .ok hr

theorem reads_pairs_cons {key : String} {v : Json} {members : Members}
    (h : ∀ m ∈ (key, v) :: members, ReadsBack l item m.2) (level outer : Nat) (t : List Char) :
    Reads (pairs item (l.line level ++ (writeString key ++ ':' :: (l.gap ++ (l.write level v ++
      (l.writeMembers level members ++ (l.line outer ++ '\x7d' :: t)))))))
      (canonicalMembers ((key, v) :: members)) t := by
  obtain ⟨hv, hvs⟩ := List.forall_mem_cons.mp h
  have hpair := reads_pair key hv level
    (endsNumber_members l level members (endsNumber_closing l (Or.inr rfl) outer t))
  rw [writeString_eq] at hpair ⊢
  obtain ⟨rest, hc, hr⟩ := cutAfter_append (l.line_blank level)
    (by decide : isSpace '"' = false) (key.toList.flatMap escapedChar ++ '"' :: ':' :: (l.gap ++
      (l.write level v ++ (l.writeMembers level members ++ (l.line outer ++ '\x7d' :: t)))))
  rw [← skipSpace_append (l.line_blank level)
    (by decide : isSpace '"' = false)] at hpair
  rw [pairs, hc]
  simp only [Char.reduceEq, if_false]
  refine hpair.bind fun left hl => ?_
  have hmore : Reads (morePairs item left.val) (canonicalMembers members) t := by
    rw [hl]
    exact reads_morePairs hvs level outer t
  exact hmore.bind fun last hlast => .ok hlast

end Brackets

/-- However many brackets may still be opened, values begin alike. -/
theorem exists_inner (limit : Nat) : ∃ inner, valueWithin limit = valueIn inner := by
  cases limit with
  | zero => exact ⟨_, rfl⟩
  | succ limit => exact ⟨_, rfl⟩

theorem reads_string {inner : Option ((s : List Char) → Reading Json s)} (text : String)
    (t : List Char) : Reads (valueIn inner (writeString text ++ t)) (.string text) t := by
  rw [writeString_eq]
  exact (reads_stringText text t).bind fun left hl => .ok hl

section
variable {limit : Nat} {items : List Json} {members : Members}

theorem readsBack_array (h : ∀ v ∈ items, ReadsBack l (valueWithin limit) v) :
    ReadsBack l (valueWithin (limit + 1)) (.array items) := by
  cases items with
  | nil =>
    refine ⟨fun level => ⟨_, _, rfl, by decide, by decide⟩, fun level t _ => ?_⟩
    exact (reads_items_nil t).bind fun left hl => .ok hl
  | cons v vs =>
    refine ⟨fun level => ⟨_, _, rfl, by decide, by decide⟩, fun level t _ => ?_⟩
    have hw : l.write level (.array (v :: vs)) ++ t = '[' :: (l.line (level + 1) ++
        (l.write (level + 1) v ++ (l.writeItems (level + 1) vs ++
          (l.line level ++ ']' :: t)))) := by
      simp [Layout.write]
    rw [hw]
    exact (reads_items_cons h (level + 1) level t).bind fun left hl => .ok hl

theorem readsBack_object (h : ∀ m ∈ members, ReadsBack l (valueWithin limit) m.2) :
    ReadsBack l (valueWithin (limit + 1)) (.object members) := by
  cases members with
  | nil =>
    refine ⟨fun level => ⟨_, _, rfl, by decide, by decide⟩, fun level t _ => ?_⟩
    exact (reads_pairs_nil t).bind fun left hl => .ok hl
  | cons m ms =>
    obtain ⟨key, v⟩ := m
    refine ⟨fun level => ⟨_, _, rfl, by decide, by decide⟩, fun level t _ => ?_⟩
    have hw : l.write level (.object ((key, v) :: ms)) ++ t =
        '\x7b' :: (l.line (level + 1) ++ (writeString key ++ ':' :: (l.gap ++
          (l.write (level + 1) v ++ (l.writeMembers (level + 1) ms ++
            (l.line level ++ '\x7d' :: t)))))) := by
      simp [Layout.write]
    rw [hw]
    exact (reads_pairs_cons h (level + 1) level t).bind fun left hl => .ok hl

end

theorem head_writeInt (n : Int) :
    ∃ c rest, writeInt n = c :: rest ∧ isSpace c = false ∧ c ≠ ']' := by
  by_cases hneg : n < 0
  · exact ⟨'-', _, if_pos hneg, by decide, by decide⟩
  · obtain ⟨c, ds, hd⟩ := List.exists_cons_of_ne_nil (Nat.toDigits_ne_nil (b := 10) (n := n.natAbs))
    have hc : c.isDigit = true :=
      Text.isDigit_of_mem_toDigits (n := n.natAbs) (hd ▸ List.mem_cons_self)
    refine ⟨c, ds, (if_neg hneg).trans hd, ?_, ?_⟩
    · cases hs : isSpace c with
      | false => rfl
      | true =>
        simp only [isSpace, Bool.or_eq_true, decide_eq_true_eq] at hs
        obtain ((rfl | rfl) | rfl) | rfl := hs <;> cases hc
    · rintro rfl
      cases hc

theorem readsBack_of_fits {limit : Nat} {v : Json} (h : Fits limit v) :
    ReadsBack l (valueWithin limit) v := by
  -- by how deep the value is nested; scalars are read alike at any depth
  induction h with
  | @null limit =>
    obtain ⟨inner, hi⟩ := exists_inner limit
    exact ⟨fun level => ⟨_, _, rfl, by decide, by decide⟩, fun level t _ => hi ▸ ⟨_, rfl, rfl⟩⟩
  | @bool limit b =>
    obtain ⟨inner, hi⟩ := exists_inner limit
    cases b <;>
      exact ⟨fun level => ⟨_, _, rfl, by decide, by decide⟩, fun level t _ => hi ▸ ⟨_, rfl, rfl⟩⟩
  | @number limit n hn =>
    obtain ⟨inner, hi⟩ := exists_inner limit
    cases n with
    | integer n => exact ⟨fun level => head_writeInt n, fun level t ht => hi ▸ reads_int hn ht⟩
    | float x => cases hn
  | @string limit text =>
    obtain ⟨inner, hi⟩ := exists_inner limit
    exact ⟨fun level => ⟨_, _, rfl, by decide, by decide⟩,
      fun level t _ => hi ▸ reads_string text t⟩
  | array _ ih => exact readsBack_array ih
  | object _ ih => exact readsBack_object ih

/-- A value is spelled with the members of its objects in any order. -/
theorem spells_layout (l : Layout) {limit : Nat} {v : Json} (h : Fits limit v) :
    Spells limit (String.ofList (l.write 0 v)) v.canonical := by
  have hv : ReadsBack l (valueWithin limit) v := readsBack_of_fits h
  obtain ⟨c, rest, hw, hc, _⟩ := hv.head 0
  have hskip : (skipSpace (String.ofList (l.write 0 v)).toList).val = l.write 0 v ++ [] := by
    rw [String.toList_ofList, List.append_nil, hw]
    exact skipSpace_of_eq (List.forall_mem_nil _) hc rfl
  have hread : Reads (valueWithin limit (skipSpace (String.ofList (l.write 0 v)).toList).val)
      v.canonical [] := by
    rw [hskip]
    exact hv.back 0 [] nofun
  obtain ⟨left, hr, hl⟩ := hread
  exact ⟨left, hr, by rw [hl]; rfl⟩

theorem spells_pretty {limit : Nat} {v : Json} (h : Fits limit v) :
    Spells limit v.pretty v.canonical := by
  rw [pretty, ← Layout.write_indented]
  exact spells_layout .indented h

theorem read_pretty {v : Json} (h : Fits maxDepth v) : read v.pretty = .ok v.canonical :=
  read_eq_ok_iff.mpr (spells_pretty h)

theorem spells_pretty_of_sorted {limit : Nat} {v : Json} (h : Fits limit v) (hs : Sorted v) :
    Spells limit v.pretty v := by
  have hv := spells_pretty h
  rwa [canonical_of_sorted hs] at hv

theorem read_compact {v : Json} (h : Fits maxDepth v) : read v.compact = .ok v.canonical := by
  rw [compact, ← Layout.write_dense 0]
  exact read_eq_ok_iff.mpr (spells_layout .dense h)

/-- A value in canonical form comes back as it is. -/
theorem read_compact_canonical {v : Json} (h : Fits maxDepth v.canonical) :
    read v.canonical.compact = .ok v.canonical := by
  rw [read_compact h, canonical_of_sorted (sorted_canonical v)]

end Conformance.Json
