import Conformance.Proofs.Text.Split
import Conformance.Proofs.Url.Percent
import Conformance.Url.Form

/-! What is put into a query comes out of it again, after all that was there before. -/
namespace Conformance.Url.Form

open Text (hexValue)

variable {c : Char} {cs query name value : List Char}

/-- The characters of which encoded names and values are made. -/
def isWritten (c : Char) : Bool := isKept c || c = '+' || c = '%'

theorem isKept_ascii (h : isKept c = true) : c.toNat < 0x80 := by
  simp only [isKept, Bool.or_eq_true, decide_eq_true_eq] at h
  obtain (((h | rfl) | rfl) | rfl) | rfl := h
  · obtain h | h := Bool.or_eq_true_iff.mp h
    · obtain h | h := Bool.or_eq_true_iff.mp h
      · have hle : c ≤ 'Z' := (of_decide_eq_true h).2
        exact Nat.lt_of_le_of_lt hle (by decide)
      · have hle : c ≤ 'z' := of_decide_eq_true (Bool.and_eq_true_iff.mp h).2
        exact Nat.lt_of_le_of_lt hle (by decide)
    · exact ascii_of_isDigit h
  all_goals decide

theorem isWritten_ascii (h : isWritten c = true) : c.toNat < 0x80 := by
  simp only [isWritten, Bool.or_eq_true, decide_eq_true_eq] at h
  obtain (h | rfl) | rfl := h
  · exact isKept_ascii h
  all_goals decide

theorem isKept_of_digit (h : (hexValue c).isSome) : isKept c = true :=
  ascii_forall (P := fun c => (hexValue c).isSome → isKept c = true) (by decide +kernel)
    (hexValue_ascii h) h

/-- No such character separates pairs or ends a query, and all are kept in a query. -/
theorem isWritten_plain (h : isWritten c = true) :
    c ≠ '&' ∧ c ≠ '=' ∧ c ≠ '#' ∧ keptInSpecialQuery c = true :=
  ascii_forall (P := fun c => isWritten c = true →
    c ≠ '&' ∧ c ≠ '=' ∧ c ≠ '#' ∧ keptInSpecialQuery c = true) (by decide +kernel)
    (isWritten_ascii h) h

theorem encode_cons (c : Char) (cs : List Char) : encode (c :: cs) = encode [c] ++ encode cs := by
  simp [encode]

theorem encode_space : encode [' '] = ['+'] := rfl

theorem encode_kept (h : isKept c = true) : encode [c] = [c] := by
  have hc : c ≠ ' ' := by
    rintro rfl
    cases h
  simp [encode, hc, percentEncode_kept h]

theorem encode_escaped (hc : c ≠ ' ') (h : isKept c = false) :
    encode [c] = (utf8 [c]).flatMap percentByte := by
  simp [encode, hc, percentEncode_escaped h]

/-- A character is written as a plus sign, as itself or byte by byte. -/
theorem encode_cases (c : Char) :
    (c = ' ' ∧ encode [c] = ['+']) ∨ (isKept c = true ∧ encode [c] = [c]) ∨
      encode [c] = (utf8 [c]).flatMap percentByte := by
  by_cases hs : c = ' '
  · subst hs
    exact Or.inl ⟨rfl, encode_space⟩
  · cases hk : isKept c with
    | true => exact Or.inr (Or.inl ⟨rfl, encode_kept hk⟩)
    | false => exact Or.inr (Or.inr (encode_escaped hs hk))

theorem mem_encode (h : c ∈ encode cs) : isWritten c = true := by
  induction cs with
  | nil => cases h
  | cons d cs ih =>
    rw [encode_cons, List.mem_append] at h
    obtain h | h := h
    · obtain ⟨_, he⟩ | ⟨hk, he⟩ | he := encode_cases d
      · rw [he] at h
        obtain rfl := List.mem_singleton.mp h
        decide
      · rw [he] at h
        obtain rfl := List.mem_singleton.mp h
        simp [isWritten, hk]
      · rw [he] at h
        obtain rfl | hd := mem_percentBytes h
        · decide
        · simp [isWritten, isKept_of_digit hd]
    · exact ih h

theorem decode_encode (cs : List Char) : decode (encode cs) = utf8 cs := by
  have plus : ∀ {ds : List Char}, '+' ∉ ds →
      ds.map (fun c => if c = '+' then ' ' else c) = ds := by
    intro ds h
    refine (List.map_congr_left fun d hd => ?_).trans (List.map_id ds)
    have hne : d ≠ '+' := by
      rintro rfl
      exact h hd
    exact if_neg hne
  induction cs with
  | nil => rfl
  | cons c cs ih =>
    rw [decode] at ih ⊢
    rw [encode_cons, List.map_append, utf8_cons]
    obtain ⟨rfl, he⟩ | ⟨hk, he⟩ | he := encode_cases c
    · rw [he]
      simp only [List.map_cons, List.map_nil, if_true, List.singleton_append]
      rw [percentDecode_cons (by decide), ih]
    · have hc : c ≠ '+' ∧ c ≠ '%' := by
        constructor
        · rintro rfl
          cases hk
        · rintro rfl
          cases hk
      rw [he, plus (by simpa using hc.1.symm), List.singleton_append, percentDecode_cons hc.2, ih]
    · rw [he, plus, percentDecode_percentBytes, ih]
      intro h
      obtain h | h := mem_percentBytes h
      · cases h
      · cases h

theorem encode_ne_nil (h : cs ≠ []) : encode cs ≠ [] := by
  intro he
  have hd := decode_encode cs
  rw [he] at hd
  exact utf8_ne_nil h hd.symm

theorem not_mem_encode (h : isWritten c = false) : c ∉ encode cs := by
  intro hm
  rw [mem_encode hm] at h
  cases h

theorem mem_encodePair (h : c ∈ encodePair name value) : isWritten c = true ∨ c = '=' := by
  rw [encodePair, List.mem_append, List.mem_cons] at h
  obtain h | h | h := h
  · exact Or.inl (mem_encode h)
  · exact Or.inr h
  · exact Or.inl (mem_encode h)

theorem not_mem_encodePair (h : isWritten c = false) (he : c ≠ '=') :
    c ∉ encodePair name value := by
  intro hm
  obtain hw | hc := mem_encodePair hm
  · rw [hw] at h
    cases h
  · exact he hc

theorem pairs_encodePair (name value : List Char) :
    pairs (encodePair name value) = [(utf8 name, utf8 value)] := by
  have hs : Text.splitAt '&' (encodePair name value) = [encodePair name value] :=
    Text.splitAt_of_not_mem (not_mem_encodePair (by decide) (by decide))
  have hc : Text.cutAt '=' (encodePair name value) = some (encode name, encode value) :=
    Text.cutAt_append (not_mem_encode (by decide))
  have hn : (encodePair name value).isEmpty = false := by simp [encodePair]
  simp [pairs, hs, hn, decodePair, hc, decode_encode]

/-- The pairs of a query and then the new one, name and value exactly. -/
theorem pairs_append (query name value : List Char) :
    pairs (append query name value) = pairs query ++ [(utf8 name, utf8 value)] := by
  rw [append]
  split
  · rename_i h
    rw [List.isEmpty_iff.mp h, pairs_encodePair]
    rfl
  · rw [← pairs_encodePair name value]
    simp [pairs, Text.splitAt_append]

end Conformance.Url.Form
