import Conformance.Json.Shortest
import Conformance.Proofs.Text.Digit
import Conformance.Text.Columns
import Conformance.Text.Preview

/-! Texts without line breaks. What is put together of them is on one line, numbers and quoted texts
are, and so is what was flattened. -/
namespace Conformance.Text

/-- None of these characters occurs in the text. -/
def Lacks (stops : List Char) (s : String) : Prop := ∀ c ∈ s.toList, c ∉ stops

instance (stops : List Char) (s : String) : Decidable (Lacks stops s) :=
  List.decidableBAll (· ∉ stops) s.toList

/-- What ends a line, on a terminal too. -/
def breaks : List Char := ['\n', '\r']

/-- The text does not go on in another line. -/
abbrev OneLine (s : String) : Prop := Lacks breaks s

variable {stops : List Char} {s t : String} {n : Nat}

theorem lacks_append : Lacks stops (s ++ t) ↔ Lacks stops s ∧ Lacks stops t := by
  simp [Lacks, or_imp, forall_and]

theorem Lacks.append (hs : Lacks stops s) (ht : Lacks stops t) : Lacks stops (s ++ t) :=
  lacks_append.mpr ⟨hs, ht⟩

theorem oneLine_append : OneLine (s ++ t) ↔ OneLine s ∧ OneLine t := lacks_append

theorem lacks_ofList {cs : List Char} :
    Lacks stops (String.ofList cs) ↔ ∀ c ∈ cs, c ∉ stops := by
  simp [Lacks]

theorem Lacks.intercalate {parts : List String} (hs : Lacks stops s)
    (h : ∀ part ∈ parts, Lacks stops part) : Lacks stops (s.intercalate parts) := by
  induction parts with
  | nil => exact fun c hc => absurd hc List.not_mem_nil
  | cons part rest ih =>
    have hp : Lacks stops part := h part List.mem_cons_self
    cases rest with
    | nil => simpa using hp
    | cons next rest =>
      rw [String.intercalate_cons_cons]
      exact (hp.append hs).append (ih fun q hq => h q (List.mem_cons_of_mem part hq))

theorem lacks_replicate {c : Char} (h : c ∉ stops) (n : Nat) :
    Lacks stops (String.ofList (List.replicate n c)) := by
  refine lacks_ofList.mpr fun d hd => ?_
  rw [List.eq_of_mem_replicate hd]
  exact h

theorem lacks_padChars (h : ' ' ∉ stops) : Lacks stops (padChars n s) ↔ Lacks stops s := by
  rw [padChars, lacks_append, and_iff_left (lacks_replicate h _)]

theorem Lacks.padColumns (h : ' ' ∉ stops) (hs : Lacks stops s) : Lacks stops (padColumns n s) :=
  hs.append (lacks_replicate h _)

/-! ### Numbers -/

section
variable (hd : ∀ c ∈ stops, c.isDigit = false)
include hd

theorem not_mem_of_isDigit {c : Char} (hc : c.isDigit = true) : c ∉ stops := by
  intro hm
  rw [hd c hm] at hc
  cases hc

theorem lacks_toDigits (n : Nat) : ∀ c ∈ Nat.toDigits 10 n, c ∉ stops :=
  fun _ hc => not_mem_of_isDigit hd (isDigit_of_mem_toDigits hc)

theorem lacks_nat (n : Nat) : Lacks stops (toString n) :=
  lacks_ofList.mpr (lacks_toDigits hd n)

theorem lacks_int (hm : '-' ∉ stops) (i : Int) : Lacks stops (toString i) := by
  cases i with
  | ofNat n => exact lacks_nat hd n
  | negSucc n =>
    refine Lacks.append (fun c hc => ?_) (lacks_nat hd (n + 1))
    obtain rfl := List.mem_singleton.mp hc
    exact hm

end

theorem isDigit_breaks : ∀ c ∈ breaks, c.isDigit = false := by simp [breaks]

theorem oneLine_nat (n : Nat) : OneLine (toString n) := lacks_nat isDigit_breaks n

theorem oneLine_int (i : Int) : OneLine (toString i) := lacks_int isDigit_breaks (by decide) i

/-! ### Shortened and quoted texts -/

theorem oneLine_snippet (n : Nat) (s : String) : OneLine (snippet n s) := by
  intro c hc
  rw [toList_snippet] at hc
  obtain ⟨d, _, rfl⟩ := List.mem_map.mp hc
  simp [breaks, flattenBreak_ne_lf, flattenBreak_ne_cr]

theorem not_mem_breaks_of_hexValue {c : Char} (h : (hexValue c).isSome) : c ∉ breaks := by
  intro hc
  have hall : ∀ d ∈ breaks, hexValue d = none := by simp [breaks, hexValue]
  rw [hall c hc] at h
  cases h

/-- What escapes are made of, digits apart. -/
def escapeChars : List Char := ['\\', '0', 't', 'r', 'n', 'u', '"', '\x7b', '\x7d']

theorem mem_quotedChar {c d : Char} (h : d ∈ quotedChar c) :
    d ∈ escapeChars ∨ (hexValue d).isSome ∨ d = c ∧ c ∉ breaks := by
  have escaped : ∀ {ds : List Char}, ds ⊆ escapeChars → d ∈ ds →
      d ∈ escapeChars ∨ (hexValue d).isSome ∨ d = c ∧ c ∉ breaks :=
    fun hds hd => Or.inl (hds hd)
  unfold quotedChar at h
  split at h
  · exact escaped (by decide) h
  · split at h
    · exact escaped (by decide) h
    · split at h
      · exact escaped (by decide) h
      · split at h
        · exact escaped (by decide) h
        · rename_i hr hn
          split at h
          · rename_i hq
            obtain rfl | rfl := hq
            · exact escaped (by decide) h
            · exact escaped (by decide) h
          · split at h
            · obtain rfl := List.mem_singleton.mp h
              exact Or.inr (Or.inr ⟨rfl, by simp [breaks, hr, hn]⟩)
            · simp only [List.mem_append] at h
              obtain (h | h) | h := h
              · exact escaped (by decide) h
              · exact Or.inr (Or.inl (isSome_hexValue_of_mem_hex h))
              · exact escaped (by decide) h

/-- Line breaks are escaped in a quoted text. -/
theorem oneLine_quoted (s : String) : OneLine (quoted s) := by
  have hescapes : ∀ d ∈ escapeChars, d ∉ breaks := by simp [escapeChars, breaks]
  rw [quoted, OneLine, lacks_ofList]
  intro d hd
  rw [List.cons_append, List.mem_cons, List.mem_append, List.mem_singleton] at hd
  obtain rfl | hd | rfl := hd
  · decide
  · obtain ⟨c, _, hd⟩ := List.mem_flatMap.mp hd
    obtain h | h | ⟨rfl, h⟩ := mem_quotedChar hd
    · exact hescapes d h
    · exact not_mem_breaks_of_hexValue h
    · exact h
  · decide

/-- What decimal texts are made of, digits apart. -/
def decimalChars : List Char := ['.', 'e', '-', '+']

theorem mem_decimalText {c : Char} {digits : List Char} {power : Int}
    (h : c ∈ Json.Binary64.decimalText digits power) :
    c ∈ digits ∨ c.isDigit = true ∨ c ∈ decimalChars := by
  have hzero : ∀ {k : Nat}, c ∈ List.replicate k '0' → c.isDigit = true := by
    intro k hc
    rw [List.eq_of_mem_replicate hc]
    decide
  have hpoint : ∀ c ∈ ['.', '0'], c.isDigit = true ∨ c ∈ decimalChars := by simp [decimalChars]
  dsimp only [Json.Binary64.decimalText] at h
  split at h
  · simp only [List.mem_append] at h
    obtain (h | h) | h := h
    · exact Or.inl h
    · exact Or.inr (Or.inl (hzero h))
    · exact Or.inr (hpoint c h)
  · split at h
    · simp only [List.mem_append, List.mem_cons] at h
      obtain h | rfl | h := h
      · exact Or.inl (List.mem_of_mem_take h)
      · exact Or.inr (by decide)
      · exact Or.inl (List.mem_of_mem_drop h)
    · split at h
      · simp only [List.mem_append, List.mem_cons] at h
        obtain (rfl | rfl | h) | h := h
        · exact Or.inr (by decide)
        · exact Or.inr (by decide)
        · exact Or.inr (Or.inl (hzero h))
        · exact Or.inl h
      · simp only [List.mem_append, List.mem_cons] at h
        obtain (h | h) | rfl | rfl | h := h
        · exact Or.inl (List.mem_of_mem_take h)
        · split at h
          · cases h
          · rcases List.mem_cons.mp h with rfl | h
            · exact Or.inr (by decide)
            · exact Or.inl (List.mem_of_mem_drop h)
        · exact Or.inr (by decide)
        · exact Or.inr (by split <;> decide)
        · exact Or.inr (Or.inl (isDigit_of_mem_toDigits h))

theorem oneLine_float (x : Json.Binary64) : OneLine x.text := by
  have hsigns : ∀ c ∈ decimalChars, c ∉ breaks := by simp [decimalChars, breaks]
  have hsign : ∀ c ∈ (if x.negative then ['-'] else []), c ∉ breaks := by
    split <;> simp [breaks]
  have hnought : ∀ c ∈ ['0', '.', '0'], c ∉ breaks := by simp [breaks]
  simp only [Json.Binary64.text, OneLine]
  split
  · rw [lacks_ofList]
    intro c hc
    rcases List.mem_append.mp hc with hc | hc
    · exact hsign c hc
    · exact hnought c hc
  · rw [lacks_ofList]
    intro c hc
    rcases List.mem_append.mp hc with hc | hc
    · exact hsign c hc
    · obtain h | h | h := mem_decimalText hc
      · exact lacks_toDigits isDigit_breaks _ c (List.mem_of_mem_take h)
      · exact not_mem_of_isDigit isDigit_breaks h
      · exact hsigns c h

end Conformance.Text
