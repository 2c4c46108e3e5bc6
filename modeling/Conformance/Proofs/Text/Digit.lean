import Conformance.Text.Digit
import Conformance.Text.Quoted
import Mathlib.Algebra.Ring.Nat
import Mathlib.Data.List.Induction

/-! Numbers that are written in digits are read back. -/
namespace Conformance.Text

variable {c : Char} {cs : List Char} {base n : Nat}

theorem ofDigits_append_digit (base : Nat) (cs : List Char) (c : Char) :
    ofDigits base (cs ++ [c]) = (ofDigits base cs).bind fun n =>
      (hexValue c).bind fun d => if d < base then some (n * base + d) else none := by
  simp [ofDigits, List.foldlM_append, Option.bind_eq_bind]

theorem ofDigits_append_eq_some :
    ofDigits base (cs ++ [c]) = some n ↔
      ∃ m d, ofDigits base cs = some m ∧ hexValue c = some d ∧ d < base ∧ n = m * base + d := by
  rw [ofDigits_append_digit]
  simp only [Option.bind_eq_some_iff, Option.ite_none_right_eq_some, Option.some.injEq]
  constructor
  · rintro ⟨m, hm, d, hd, hlt, rfl⟩
    exact ⟨m, d, hm, hd, hlt, rfl⟩
  · rintro ⟨m, d, hm, hd, hlt, rfl⟩
    exact ⟨m, hm, d, hd, hlt, rfl⟩

theorem isSome_hexValue_of_ofDigits (h : ofDigits base cs = some n) (hc : c ∈ cs) :
    (hexValue c).isSome := by
  induction cs using List.reverseRecOn generalizing n with
  | nil => cases hc
  | append_singleton cs d ih =>
    obtain ⟨m, v, hm, hv, _, _⟩ := ofDigits_append_eq_some.mp h
    obtain hc | hc := List.mem_append.mp hc
    · exact ih hm hc
    · rw [List.mem_singleton.mp hc, hv]
      rfl

/-- Digits are worth less than the next power of their base. -/
theorem ofDigits_lt (h : ofDigits base cs = some n) : n < base ^ cs.length := by
  induction cs using List.reverseRecOn generalizing n with
  | nil =>
    cases h
    simp
  | append_singleton cs d ih =>
    obtain ⟨m, v, hm, _, hv, rfl⟩ := ofDigits_append_eq_some.mp h
    have hlt : m + 1 ≤ base ^ cs.length := ih hm
    have hmul : (m + 1) * base ≤ base ^ cs.length * base := Nat.mul_le_mul_right base hlt
    rw [List.length_append, List.length_singleton, Nat.pow_succ]
    rw [Nat.succ_mul] at hmul
    omega

/-! ### Decimal -/

theorem hexValue_digitChar (h : n < 10) : hexValue n.digitChar = some n := by
  have hall : ∀ n < 10, hexValue n.digitChar = some n := by decide
  exact hall n h

theorem ofDigits_toDigits (n : Nat) : ofDigits 10 (Nat.toDigits 10 n) = some n := by
  induction n using Nat.strongRecOn with
  | ind n ih =>
    rw [Nat.toDigits_eq_if (by decide)]
    split
    · rename_i hn
      refine (ofDigits_append_eq_some : ofDigits 10 ([] ++ [n.digitChar]) = some n ↔ _).mpr ?_
      exact ⟨0, n, rfl, hexValue_digitChar hn, hn, by omega⟩
    · have hlt : n % 10 < 10 := Nat.mod_lt n (by decide)
      exact ofDigits_append_eq_some.mpr
        ⟨n / 10, n % 10, ih (n / 10) (by omega), hexValue_digitChar hlt, hlt, by omega⟩

theorem isDigit_of_mem_toDigits (h : c ∈ Nat.toDigits 10 n) : c.isDigit = true :=
  Nat.isDigit_of_mem_toDigits (by decide) (by decide) h

/-- A zero in front stands alone. -/
theorem toDigits_eq_cons_zero (h : Nat.toDigits 10 n = '0' :: cs) : cs = [] := by
  induction n using Nat.strongRecOn generalizing cs with
  | ind n ih =>
    rw [Nat.toDigits_eq_if (by decide)] at h
    split at h
    · exact (List.cons.inj h).2.symm
    · rename_i hn
      obtain ⟨d, rest, hr⟩ := List.exists_cons_of_ne_nil (Nat.toDigits_ne_nil (n := n / 10) (b := 10))
      rw [hr] at h
      obtain ⟨rfl, _⟩ := List.cons.inj h
      obtain rfl := ih (n / 10) (by omega) hr
      -- a single zero is the number zero, which has no quotient of ten left
      have hz := ofDigits_toDigits (n / 10)
      rw [hr] at hz
      have : n / 10 = 0 := (Option.some.inj hz).symm
      omega

/-! ### Hexadecimal -/

theorem hexValue_hexDigit (h : n < 16) : hexValue (hexDigit n) = some n := by
  have hall : ∀ n < 16, hexValue (hexDigit n) = some n := by decide
  exact hall n h

theorem ofDigits_hex (n : Nat) : ofDigits 16 (hex n) = some n := by
  induction n using hex.induct with
  | case1 n hn =>
    rw [hex, if_pos hn]
    refine (ofDigits_append_eq_some : ofDigits 16 ([] ++ [hexDigit n]) = some n ↔ _).mpr ?_
    exact ⟨0, n, rfl, hexValue_hexDigit hn, hn, by omega⟩
  | case2 n hn ih =>
    have hlt : n % 16 < 16 := Nat.mod_lt n (by decide)
    rw [hex, if_neg hn]
    exact ofDigits_append_eq_some.mpr
      ⟨n / 16, n % 16, ih, hexValue_hexDigit hlt, hlt, by omega⟩

theorem hex_ne_nil (n : Nat) : hex n ≠ [] := by
  rw [hex]
  split <;> simp

theorem length_hex_le {k : Nat} (hk : 0 < k) (h : n < 16 ^ k) : (hex n).length ≤ k := by
  induction k generalizing n with
  | zero => omega
  | succ k ih =>
    rw [hex]
    split
    · simp
    · rename_i hn
      have hlt : n / 16 < 16 ^ k := by
        rw [Nat.pow_succ] at h
        omega
      have hk : 0 < k := by
        refine Nat.pos_of_ne_zero fun hz => ?_
        rw [hz] at h
        omega
      rw [List.length_append, List.length_singleton]
      exact Nat.succ_le_succ (ih hk hlt)

theorem isSome_hexValue_of_mem_hex (h : c ∈ hex n) : (hexValue c).isSome :=
  isSome_hexValue_of_ofDigits (ofDigits_hex n) h

end Conformance.Text
