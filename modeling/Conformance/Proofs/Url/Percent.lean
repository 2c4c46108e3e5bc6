import Conformance.Url.Percent
import Mathlib.Data.Bool.AllAny

/-! Percent encoding keeps nothing from a decoder, and encodes nothing twice. -/
namespace Conformance.Url

open Text (hexValue)

variable {keep : Char → Bool} {c : Char} {cs rest : List Char} {bytes : List UInt8}

/-- What holds of the first 128 characters one by one holds of all ASCII characters. -/
theorem ascii_forall {P : Char → Prop} (h : ∀ n < 0x80, P (Char.ofNat n)) (hc : c.toNat < 0x80) :
    P c := by
  rw [← Char.ofNat_toNat c]
  exact h c.toNat hc

theorem ascii_of_isDigit (h : c.isDigit = true) : c.toNat < 0x80 := by
  have hle : c ≤ '9' := of_decide_eq_true (Bool.and_eq_true_iff.mp h).2
  exact Nat.lt_of_le_of_lt hle (by decide)

/-! ### Bytes of a text -/

theorem utf8_cons (c : Char) (cs : List Char) : utf8 (c :: cs) = utf8 [c] ++ utf8 cs := by
  simp [utf8]

theorem utf8_append (cs ds : List Char) : utf8 (cs ++ ds) = utf8 cs ++ utf8 ds := by
  simp [utf8]

theorem utf8_ascii (h : c.toNat < 0x80) : utf8 [c] = [UInt8.ofNat c.toNat] := by
  have hv : c.val.toNat ≤ 127 := Nat.le_of_lt_succ h
  simp only [utf8, List.flatMap_cons, List.flatMap_nil, List.append_nil, String.utf8EncodeChar]
  rw [if_pos hv]
  rfl

/-- Bytes of other characters are not those of ASCII characters. -/
theorem le_of_mem_utf8 {b : UInt8} (h : 0x80 ≤ c.toNat) (hb : b ∈ utf8 [c]) : 0x80 ≤ b.toNat := by
  have hv : ¬c.val.toNat ≤ 127 := Nat.not_le.mpr h
  have hn : ∀ n, 0x80 ≤ n → n < 0x100 → 0x80 ≤ (UInt8.ofNat n).toNat := by
    intro n hlow hhigh
    rw [UInt8.toNat_ofNat']
    omega
  simp only [utf8, List.flatMap_cons, List.flatMap_nil, List.append_nil, String.utf8EncodeChar] at hb
  rw [if_neg hv] at hb
  split at hb
  · simp only [List.mem_cons, List.not_mem_nil, or_false] at hb
    obtain rfl | rfl := hb <;> exact hn _ (by omega) (by omega)
  · split at hb
    · simp only [List.mem_cons, List.not_mem_nil, or_false] at hb
      obtain rfl | rfl | rfl := hb <;> exact hn _ (by omega) (by omega)
    · simp only [List.mem_cons, List.not_mem_nil, or_false] at hb
      obtain rfl | rfl | rfl | rfl := hb <;> exact hn _ (by omega) (by omega)

/-- The byte of an ASCII character is in a text only where the character is. -/
theorem mem_of_byte_mem_utf8 (hc : c.toNat < 0x80) (h : UInt8.ofNat c.toNat ∈ utf8 cs) :
    c ∈ cs := by
  have hsize : ∀ {n}, n < 0x80 → n < UInt8.size := fun hn => Nat.lt_trans hn (by decide)
  induction cs with
  | nil => cases h
  | cons d cs ih =>
    rw [utf8_cons, List.mem_append] at h
    obtain h | h := h
    · by_cases hd : d.toNat < 0x80
      · rw [utf8_ascii hd, List.mem_singleton] at h
        have hn := congrArg UInt8.toNat h
        rw [UInt8.toNat_ofNat_of_lt' (hsize hc), UInt8.toNat_ofNat_of_lt' (hsize hd)] at hn
        rw [← Char.ofNat_toNat c, hn, Char.ofNat_toNat]
        exact List.mem_cons_self
      · have hb := le_of_mem_utf8 (Nat.not_lt.mp hd) h
        rw [UInt8.toNat_ofNat_of_lt' (hsize hc)] at hb
        omega
    · exact List.mem_cons_of_mem d (ih h)

theorem utf8_ne_nil (h : cs ≠ []) : utf8 cs ≠ [] := by
  obtain ⟨c, rest, rfl⟩ := List.exists_cons_of_ne_nil h
  rw [utf8, List.flatMap_cons]
  exact List.append_ne_nil_of_left_ne_nil String.utf8EncodeChar_ne_nil _

theorem toByteArray_utf8 (cs : List Char) : (⟨(utf8 cs).toArray⟩ : ByteArray) = cs.utf8Encode := by
  apply ByteArray.ext
  rw [List.utf8Encode, List.data_toByteArray]
  rfl

theorem ofUtf8?_utf8 (cs : List Char) : ofUtf8? (utf8 cs) = some cs := by
  have hv : (cs.utf8Encode).IsValidUTF8 := ByteArray.isValidUTF8_utf8Encode
  rw [ofUtf8?, toByteArray_utf8, String.fromUTF8?, dif_pos hv]
  have hs : String.fromUTF8 cs.utf8Encode hv = String.ofList cs := by
    apply String.toByteArray_inj.mp
    rw [String.toByteArray_ofList]
    rfl
  rw [hs, Option.map_some, String.toList_ofList]

theorem utf8_of_ofUtf8? (h : ofUtf8? bytes = some cs) : bytes = utf8 cs := by
  rw [ofUtf8?, String.fromUTF8?] at h
  split at h
  · rename_i hv
    obtain ⟨m, hm⟩ := hv
    have hb : bytes = utf8 m := by
      have hd := congrArg ByteArray.data hm
      rw [List.utf8Encode, List.data_toByteArray] at hd
      exact congrArg Array.toList hd
    have ho : ofUtf8? bytes = some m := by rw [hb, ofUtf8?_utf8]
    rw [ofUtf8?, String.fromUTF8?, dif_pos ⟨m, hm⟩] at ho
    rw [hb, Option.some.inj (ho.symm.trans h)]
  · cases h

theorem utf8_injective {ds : List Char} (h : utf8 cs = utf8 ds) : cs = ds := by
  have hc := ofUtf8?_utf8 cs
  rw [h, ofUtf8?_utf8] at hc
  exact (Option.some.inj hc).symm

/-! ### Percent signs -/

theorem hexValue_capitalHexDigit {n : Nat} (h : n < 16) : hexValue (capitalHexDigit n) = some n := by
  have hall : ∀ n < 16, hexValue (capitalHexDigit n) = some n := by decide
  exact hall n h

theorem percentByte_eq (b : UInt8) : ∃ high < 16, ∃ low < 16,
    percentByte b = ['%', capitalHexDigit high, capitalHexDigit low] ∧
      UInt8.ofNat (high * 16 + low) = b := by
  have hb : b.toNat < 256 := b.toNat_lt
  refine ⟨b.toNat / 16, by omega, b.toNat % 16, by omega, rfl, ?_⟩
  rw [Nat.div_add_mod' b.toNat 16, UInt8.ofNat_toNat]

theorem percentDecode_percentByte (b : UInt8) (rest : List Char) :
    percentDecode (percentByte b ++ rest) = b :: percentDecode rest := by
  obtain ⟨high, hh, low, hl, he, hv⟩ := percentByte_eq b
  rw [he]
  simp only [List.cons_append, List.nil_append]
  rw [percentDecode, hexValue_capitalHexDigit hh, hexValue_capitalHexDigit hl]
  simp only [hv]

theorem percentDecode_percentBytes (bytes : List UInt8) (rest : List Char) :
    percentDecode (bytes.flatMap percentByte ++ rest) = bytes ++ percentDecode rest := by
  induction bytes with
  | nil => rfl
  | cons b bytes ih =>
    rw [List.flatMap_cons, List.append_assoc, percentDecode_percentByte, ih, List.cons_append]

theorem percentDecode_cons (h : c ≠ '%') :
    percentDecode (c :: rest) = utf8 [c] ++ percentDecode rest := by
  apply percentDecode.eq_2
  intro a b more hc _
  exact h hc

/-- Of a text without percent signs a decoder makes its bytes. -/
theorem percentDecode_plain (h : '%' ∉ cs) : percentDecode cs = utf8 cs := by
  induction cs with
  | nil => rfl
  | cons c cs ih =>
    have hc : c ≠ '%' := by
      rintro rfl
      exact h List.mem_cons_self
    rw [percentDecode_cons hc, ih fun hm => h (List.mem_cons_of_mem c hm), ← utf8_cons]

/-! ### Encoding -/

/-- The characters that stand in place of a byte are kept themselves. -/
structure KeepsEscapes (keep : Char → Bool) : Prop where
  mark : keep '%' = true
  digit : ∀ d : Char, (hexValue d).isSome → keep d = true

theorem hexValue_ascii {d : Char} (h : (hexValue d).isSome) : d.toNat < 0x80 := by
  have hle : ∀ {a b : Char}, a ≤ b → a.toNat ≤ b.toNat := fun hab => hab
  unfold hexValue at h
  split at h
  · rename_i hd
    exact Nat.lt_of_le_of_lt (hle hd.2) (by decide)
  · split at h
    · rename_i hd
      exact Nat.lt_of_le_of_lt (hle hd.2) (by decide)
    · split at h
      · rename_i hd
        exact Nat.lt_of_le_of_lt (hle hd.2) (by decide)
      · cases h

theorem keepsEscapes_of_ascii (hm : keep '%' = true)
    (hd : ∀ n < 0x80, (hexValue (Char.ofNat n)).isSome → keep (Char.ofNat n) = true) :
    KeepsEscapes keep where
  mark := hm
  digit _ h := ascii_forall (P := fun d => (hexValue d).isSome → keep d = true) hd
    (hexValue_ascii h) h

theorem keepsEscapes_path : KeepsEscapes keptInPath :=
  keepsEscapes_of_ascii (by decide) (by decide +kernel)

theorem keepsEscapes_userInfo : KeepsEscapes keptInUserInfo :=
  keepsEscapes_of_ascii (by decide) (by decide +kernel)

theorem keepsEscapes_specialQuery : KeepsEscapes keptInSpecialQuery :=
  keepsEscapes_of_ascii (by decide) (by decide +kernel)

theorem keepsEscapes_fragment : KeepsEscapes keptInFragment :=
  keepsEscapes_of_ascii (by decide) (by decide +kernel)

theorem percentEncode_cons (keep : Char → Bool) (c : Char) (cs : List Char) :
    percentEncode keep (c :: cs) = percentEncode keep [c] ++ percentEncode keep cs := by
  simp [percentEncode]

theorem percentEncode_kept (h : keep c = true) : percentEncode keep [c] = [c] := by
  simp [percentEncode, h]

theorem percentEncode_escaped (h : keep c = false) :
    percentEncode keep [c] = (utf8 [c]).flatMap percentByte := by
  simp [percentEncode, utf8, h]

theorem percentEncode_eq_nil : percentEncode keep cs = [] ↔ cs = [] := by
  constructor
  · intro h
    cases cs with
    | nil => rfl
    | cons c cs =>
      rw [percentEncode_cons, List.append_eq_nil_iff] at h
      cases hc : keep c with
      | true =>
        rw [percentEncode_kept hc] at h
        cases h.1
      | false =>
        rw [percentEncode_escaped hc, List.flatMap_eq_nil_iff] at h
        obtain ⟨b, bytes, hb⟩ := List.exists_cons_of_ne_nil (utf8_ne_nil (List.cons_ne_nil c []))
        cases h.1 b (hb ▸ List.mem_cons_self)
  · rintro rfl
    rfl

/-- Nothing happens to a text whose characters are all kept. -/
theorem percentEncode_eq_self (h : ∀ c ∈ cs, keep c = true) : percentEncode keep cs = cs := by
  induction cs with
  | nil => rfl
  | cons c cs ih =>
    rw [percentEncode_cons, percentEncode_kept (h c List.mem_cons_self),
      ih fun d hd => h d (List.mem_cons_of_mem c hd), List.singleton_append]

theorem mem_percentBytes (h : c ∈ bytes.flatMap percentByte) :
    c = '%' ∨ (hexValue c).isSome := by
  obtain ⟨b, _, hc⟩ := List.mem_flatMap.mp h
  obtain ⟨high, hh, low, hl, he, _⟩ := percentByte_eq b
  rw [he] at hc
  simp only [List.mem_cons, List.not_mem_nil, or_false] at hc
  obtain rfl | rfl | rfl := hc
  · exact Or.inl rfl
  · exact Or.inr (by rw [hexValue_capitalHexDigit hh]; rfl)
  · exact Or.inr (by rw [hexValue_capitalHexDigit hl]; rfl)

/-- Every character of an encoded text is a kept one of the text, or belongs to an escape. -/
theorem mem_percentEncode (h : c ∈ percentEncode keep cs) :
    (c ∈ cs ∧ keep c = true) ∨ c = '%' ∨ (hexValue c).isSome := by
  induction cs with
  | nil => cases h
  | cons d cs ih =>
    rw [percentEncode_cons, List.mem_append] at h
    obtain h | h := h
    · cases hd : keep d with
      | true =>
        rw [percentEncode_kept hd] at h
        obtain rfl := List.mem_singleton.mp h
        exact Or.inl ⟨List.mem_cons_self, hd⟩
      | false =>
        rw [percentEncode_escaped hd] at h
        exact Or.inr (mem_percentBytes h)
    · obtain ⟨hm, hk⟩ | h := ih h
      · exact Or.inl ⟨List.mem_cons_of_mem d hm, hk⟩
      · exact Or.inr h

theorem KeepsEscapes.mem (hk : KeepsEscapes keep) (h : c ∈ percentEncode keep cs) :
    keep c = true := by
  obtain ⟨_, hc⟩ | rfl | hc := mem_percentEncode h
  · exact hc
  · exact hk.mark
  · exact hk.digit c hc

/-! ### Escapes -/

/-- A percent sign in front of this makes an escape. -/
def startsWithDigits : List Char → Bool
  | a :: b :: _ => (hexValue a).isSome && (hexValue b).isSome
  | _ => false

/-- Some percent sign has two hexadecimal digits after it. -/
def hasEscape : List Char → Bool
  | [] => false
  | c :: cs => (c = '%' && startsWithDigits cs) || hasEscape cs

theorem percentDecode_escape {a b : Char} {high low : Nat} (ha : hexValue a = some high)
    (hb : hexValue b = some low) :
    percentDecode ('%' :: a :: b :: rest) = UInt8.ofNat (high * 16 + low) :: percentDecode rest := by
  rw [percentDecode, ha, hb]

theorem percentDecode_literal (h : c = '%' → startsWithDigits rest = false) :
    percentDecode (c :: rest) = utf8 [c] ++ percentDecode rest := by
  by_cases hc : c = '%'
  · subst hc
    have hs := h rfl
    match rest with
    | [] => rfl
    | [a] => exact percentDecode.eq_2 _ _ fun _ _ _ _ he => nomatch he
    | a :: b :: more =>
      rw [percentDecode]
      cases ha : hexValue a with
      | none => rfl
      | some high =>
        cases hb : hexValue b with
        | none => rfl
        | some low => simp [startsWithDigits, ha, hb] at hs
  · exact percentDecode_cons hc

/-- A percent sign in front of an encoded text was there before, or begins the first byte of a
character that is not kept. Any other character was there before. -/
theorem percentEncode_eq_cons {d : Char} {more : List Char}
    (h : percentEncode keep cs = d :: more) :
    (∃ rest, cs = d :: rest ∧ percentEncode keep rest = more) ∨
      d = '%' ∧ ∃ c rest b, cs = c :: rest ∧ keep c = false ∧ b ∈ utf8 [c] ∧
        ∃ end', percentByte b ++ end' = d :: more := by
  cases cs with
  | nil => cases h
  | cons c cs =>
    rw [percentEncode_cons] at h
    cases hc : keep c with
    | true =>
      rw [percentEncode_kept hc] at h
      obtain ⟨rfl, hm⟩ := List.cons.inj h
      exact Or.inl ⟨cs, rfl, hm⟩
    | false =>
      obtain ⟨b, bytes, hb⟩ := List.exists_cons_of_ne_nil (utf8_ne_nil (List.cons_ne_nil c []))
      rw [percentEncode_escaped hc, hb, List.flatMap_cons, List.append_assoc] at h
      refine Or.inr ⟨?_, c, cs, b, rfl, hc, hb ▸ List.mem_cons_self, _, h⟩
      rw [percentByte, List.cons_append] at h
      exact (List.cons.inj h).1.symm

theorem percentEncode_cons_literal {d : Char} {more : List Char} (hd : d ≠ '%')
    (h : percentEncode keep cs = d :: more) :
    ∃ rest, cs = d :: rest ∧ percentEncode keep rest = more := by
  obtain hl | ⟨rfl, _⟩ := percentEncode_eq_cons h
  · exact hl
  · exact absurd rfl hd

theorem ne_percent_of_digit {d : Char} (hd : (hexValue d).isSome) : d ≠ '%' := by
  rintro rfl
  exact absurd hd (by decide)

theorem startsWithDigits_percentEncode (hk : KeepsEscapes keep) (cs : List Char) :
    startsWithDigits (percentEncode keep cs) = startsWithDigits cs := by
  rw [Bool.eq_iff_iff]
  constructor
  · intro h
    match he : percentEncode keep cs with
    | [] => rw [he] at h; cases h
    | [_] => rw [he] at h; cases h
    | a :: b :: more =>
      rw [he, startsWithDigits, Bool.and_eq_true] at h
      obtain ⟨rest, rfl, hr⟩ := percentEncode_cons_literal (ne_percent_of_digit h.1) he
      obtain ⟨rest, rfl, _⟩ := percentEncode_cons_literal (ne_percent_of_digit h.2) hr
      rw [startsWithDigits, Bool.and_eq_true]
      exact h
  · intro h
    match cs with
    | [] => cases h
    | [_] => cases h
    | a :: b :: rest =>
      rw [startsWithDigits, Bool.and_eq_true] at h
      rw [percentEncode_cons, percentEncode_kept (hk.digit a h.1), percentEncode_cons,
        percentEncode_kept (hk.digit b h.2)]
      simpa [startsWithDigits] using h

/-- A text is read escape by escape, and character by character where there is none. -/
theorem escape_induction {P : List Char → Prop} (nil : P [])
    (escape : ∀ a b rest high low, hexValue a = some high → hexValue b = some low → P rest →
      P ('%' :: a :: b :: rest))
    (literal : ∀ c rest, (c = '%' → startsWithDigits rest = false) → P rest → P (c :: rest))
    (cs : List Char) : P cs := by
  induction cs using percentDecode.induct with
  | case1 a b rest high low hb ha ih => exact escape a b rest high low ha hb ih
  | case2 a b rest hn ih =>
    refine literal '%' (a :: b :: rest) (fun _ => ?_) ih
    rw [startsWithDigits]
    cases ha : hexValue a with
    | none => rfl
    | some high =>
      cases hb : hexValue b with
      | none => rfl
      | some low => exact (hn high low ha hb).elim
  | case3 c rest hn ih =>
    refine literal c rest (fun hc => ?_) ih
    match rest with
    | [] => rfl
    | [_] => rfl
    | a :: b :: more => exact (hn a b more hc rfl).elim
  | case4 => exact nil

/-- A decoder finds in the encoded text what it finds in the text. -/
theorem percentDecode_percentEncode (hk : KeepsEscapes keep) (cs : List Char) :
    percentDecode (percentEncode keep cs) = percentDecode cs := by
  induction cs using escape_induction with
  | nil => rfl
  | escape a b rest high low ha hb ih =>
    have hka := hk.digit a (by rw [ha]; rfl)
    have hkb := hk.digit b (by rw [hb]; rfl)
    rw [percentEncode_cons, percentEncode_kept hk.mark, percentEncode_cons, percentEncode_kept hka,
      percentEncode_cons, percentEncode_kept hkb]
    simp only [List.singleton_append]
    rw [percentDecode_escape ha hb, percentDecode_escape ha hb, ih]
  | literal c rest hs ih =>
    rw [percentEncode_cons, percentDecode_literal hs]
    cases hc : keep c with
    | true =>
      rw [percentEncode_kept hc, List.singleton_append, percentDecode_literal, ih]
      rwa [startsWithDigits_percentEncode hk]
    | false => rw [percentEncode_escaped hc, percentDecode_percentBytes, ih]

/-- Characters that are no part of an escape are not lost. -/
theorem mem_of_percentDecode {ds : List Char} (hc : c.toNat < 0x80) (hp : c ≠ '%')
    (hx : hexValue c = none) (hd : percentDecode cs = utf8 ds) (h : c ∈ cs) : c ∈ ds := by
  refine mem_of_byte_mem_utf8 hc ?_
  rw [← hd]
  clear hd
  induction cs using escape_induction with
  | nil => cases h
  | escape a b rest high low ha hb ih =>
    have hr : c ∈ rest := by
      simp only [List.mem_cons, hp, false_or] at h
      obtain rfl | rfl | h := h
      · rw [hx] at ha; cases ha
      · rw [hx] at hb; cases hb
      · exact h
    rw [percentDecode_escape ha hb]
    exact List.mem_cons_of_mem _ (ih hr)
  | literal d rest hs ih =>
    rw [percentDecode_literal hs, List.mem_append]
    obtain rfl | h := List.mem_cons.mp h
    · left
      rw [utf8_ascii hc]
      exact List.mem_singleton_self _
    · exact Or.inr (ih h)

theorem length_utf8_cons (c : Char) (cs : List Char) :
    (utf8 (c :: cs)).length = (utf8 [c]).length + (utf8 cs).length := by
  rw [utf8_cons, List.length_append]

theorem length_utf8_pos (c : Char) : 0 < (utf8 [c]).length :=
  List.length_pos_iff.mpr (utf8_ne_nil (List.cons_ne_nil c []))

theorem length_le_utf8 (cs : List Char) : cs.length ≤ (utf8 cs).length := by
  induction cs with
  | nil => exact Nat.le_refl 0
  | cons c cs ih =>
    have hc := length_utf8_pos c
    rw [length_utf8_cons, List.length_cons]
    omega

theorem utf8ByteSize_ofList (cs : List Char) :
    (String.ofList cs).utf8ByteSize = (utf8 cs).length := by
  rw [← String.size_toByteArray]
  exact (congrArg ByteArray.size (toByteArray_utf8 cs)).symm

theorem length_percentDecode_le (cs : List Char) :
    (percentDecode cs).length ≤ (utf8 cs).length := by
  induction cs using escape_induction with
  | nil => exact Nat.le_refl 0
  | escape a b rest high low ha hb ih =>
    have hp := length_utf8_pos '%'
    rw [percentDecode_escape ha hb, List.length_cons, length_utf8_cons, length_utf8_cons a,
      length_utf8_cons b]
    omega
  | literal c rest hs ih =>
    rw [percentDecode_literal hs, List.length_append, length_utf8_cons c rest]
    omega

/-- A text decodes to itself if there is no escape in it, and to less if there is one. -/
theorem percentDecode_of_hasEscape (cs : List Char) :
    (hasEscape cs = false ∧ percentDecode cs = utf8 cs) ∨
      (hasEscape cs = true ∧ (percentDecode cs).length < (utf8 cs).length) := by
  induction cs using escape_induction with
  | nil => exact Or.inl ⟨rfl, rfl⟩
  | escape a b rest high low ha hb ih =>
    have hp := length_utf8_pos '%'
    have ha' := length_utf8_pos a
    have hb' := length_utf8_pos b
    have hr := length_percentDecode_le rest
    refine Or.inr ⟨by simp [hasEscape, startsWithDigits, ha, hb], ?_⟩
    rw [percentDecode_escape ha hb, List.length_cons, length_utf8_cons, length_utf8_cons a,
      length_utf8_cons b]
    omega
  | literal c rest hs ih =>
    have hhead : hasEscape (c :: rest) = hasEscape rest := by
      rw [hasEscape]
      by_cases hc : c = '%'
      · simp [hs hc]
      · simp [hc]
    rw [percentDecode_literal hs, utf8_cons c rest, hhead, List.append_right_inj,
      List.length_append, List.length_append, Nat.add_lt_add_iff_left]
    exact ih

theorem percentDecode_eq_utf8 (h : hasEscape cs = false) : percentDecode cs = utf8 cs := by
  obtain ⟨_, hd⟩ | ⟨ht, _⟩ := percentDecode_of_hasEscape cs
  · exact hd
  · rw [h] at ht
    cases ht

theorem hasEscape_of_length (h : (utf8 cs).length ≤ (percentDecode cs).length) :
    hasEscape cs = false := by
  obtain ⟨hf, _⟩ | ⟨_, hlt⟩ := percentDecode_of_hasEscape cs
  · exact hf
  · exact absurd h (Nat.not_le.mpr hlt)

end Conformance.Url
