/-!
Shortened text for diagnostics. Lengths count characters, and a text is cut at a byte: the one where
the next character starts, so no character is split.
-/

namespace Conformance.Text

/-- The byte at which the character with `n` others in front of it starts, if there is one. The
first character starts at byte `k`. -/
def startFrom (k : Nat) : Nat → List Char → Option Nat
  | _, [] => none
  | 0, _ :: _ => some k
  | n + 1, c :: cs => startFrom (k + c.utf8Size) n cs

/-- The first `n` characters: the bytes in front of the next one, or all if there is no next one. -/
def truncate (n : Nat) (s : String) : String :=
  match startFrom 0 n s.toList with
  | some stop => String.Pos.Raw.extract s 0 ⟨stop⟩
  | none => s

/-- A line break becomes one space, every other character stays. -/
def flattenBreak (c : Char) : Char :=
  if c = '\r' ∨ c = '\n' then ' ' else c

/-- The first `n` characters on one line. -/
def snippet (n : Nat) (s : String) : String :=
  String.ofList ((truncate n s).toList.map flattenBreak)

/-- How many bytes the characters take up. -/
def byteCount : List Char → Nat
  | [] => 0
  | c :: cs => c.utf8Size + byteCount cs

theorem startFrom_of_length_le {k n : Nat} {cs : List Char} (h : cs.length ≤ n) :
    startFrom k n cs = none := by
  induction cs generalizing k n with
  | nil => cases n <;> rfl
  | cons c cs ih =>
    cases n with
    | zero => cases h
    | succ n => exact ih (Nat.le_of_succ_le_succ h)

theorem startFrom_of_lt {k n : Nat} {cs : List Char} (h : n < cs.length) :
    startFrom k n cs = some (k + byteCount (cs.take n)) := by
  induction cs generalizing k n with
  | nil => cases h
  | cons c cs ih =>
    cases n with
    | zero => rfl
    | succ n =>
      rw [startFrom, ih (Nat.lt_of_succ_lt_succ h), List.take_succ_cons, byteCount, Nat.add_assoc]

theorem byteCount_cons_pos (c : Char) (cs : List Char) : 0 < byteCount (c :: cs) := by
  have hc := Char.utf8Size_pos c
  rw [byteCount]
  omega

/-- Characters are taken until their bytes are used up, and no character has none. -/
theorem extract_go₂_append (front rest : List Char) (k : Nat) :
    String.Pos.Raw.extract.go₂ (front ++ rest) ⟨k⟩ ⟨k + byteCount front⟩ = front := by
  induction front generalizing k with
  | nil =>
    cases rest with
    | nil => rfl
    | cons d rest => exact if_pos rfl
  | cons c front ih =>
    have hpos := byteCount_cons_pos c front
    have hne : (⟨k⟩ : String.Pos.Raw) ≠ ⟨k + byteCount (c :: front)⟩ := by
      intro he
      have hbytes : k = k + byteCount (c :: front) := congrArg String.Pos.Raw.byteIdx he
      omega
    have hrest := ih (k + c.utf8Size)
    rw [Nat.add_assoc, ← byteCount] at hrest
    exact (if_neg hne).trans (congrArg (c :: ·) hrest)

/-- The bytes of the first characters are the first characters. -/
theorem extract_byteCount (front rest : List Char) :
    String.Pos.Raw.extract (String.ofList (front ++ rest)) 0 ⟨byteCount front⟩ =
      String.ofList front := by
  cases front with
  -- an empty range is not walked at all
  | nil => rfl
  | cons c front =>
    have hgo := extract_go₂_append (c :: front) rest 0
    rw [Nat.zero_add] at hgo
    refine (if_neg (Nat.not_le_of_lt (byteCount_cons_pos c front))).trans ?_
    rw [String.toList_ofList, List.cons_append]
    exact congrArg String.ofList ((if_pos rfl).trans hgo)

@[simp] theorem toList_truncate (n : Nat) (s : String) :
    (truncate n s).toList = s.toList.take n := by
  unfold truncate
  by_cases h : n < s.toList.length
  · have hcut := extract_byteCount (s.toList.take n) (s.toList.drop n)
    rw [List.take_append_drop, String.ofList_toList] at hcut
    rw [startFrom_of_lt h, Nat.zero_add]
    exact (congrArg String.toList hcut).trans String.toList_ofList
  · rw [startFrom_of_length_le (Nat.le_of_not_lt h)]
    exact (List.take_of_length_le (Nat.le_of_not_lt h)).symm

theorem truncate_eq (n : Nat) (s : String) : truncate n s = String.ofList (s.toList.take n) := by
  rw [← toList_truncate, String.ofList_toList]

@[simp] theorem toList_snippet (n : Nat) (s : String) :
    (snippet n s).toList = (s.toList.take n).map flattenBreak := by
  simp [snippet]

theorem flattenBreak_ne_lf (c : Char) : flattenBreak c ≠ '\n' := by
  unfold flattenBreak
  split
  · decide
  · rename_i h; exact fun e => h (.inr e)

theorem flattenBreak_ne_cr (c : Char) : flattenBreak c ≠ '\r' := by
  unfold flattenBreak
  split
  · decide
  · rename_i h; exact fun e => h (.inl e)

end Conformance.Text
