import Conformance.Proofs.Url.Punycode
import Mathlib.Data.List.Sort

/-! How long the encoding of a label is at least. Characters that lie far apart are written with
three digits each, as soon as there are some in place. -/
namespace Conformance.Url.Punycode

variable {label : List Char} {ascii code next : Nat} {codes : List Nat} {s : Progress} {c : Char}

theorem digits_ne_nil (bias place q : Nat) : digits bias place q ≠ [] := by
  rw [digits]
  split <;> exact List.cons_ne_nil _ _

theorem two_le_length_digits (bias place : Nat) {q : Nat} (h : 26 ≤ q) :
    2 ≤ (digits bias place q).length := by
  have ht := threshold_bounds bias place
  rw [digits, if_neg (by omega), List.length_cons]
  have := List.length_pos_iff.mpr
    (digits_ne_nil bias (place + 36) ((q - threshold bias place) / (36 - threshold bias place)))
  omega

/-- The first digit has a weight of at most 35, so that what it leaves still takes two digits. -/
theorem three_le_length_digits (bias place : Nat) {q : Nat} (h : 911 ≤ q) :
    3 ≤ (digits bias place q).length := by
  have ht := threshold_bounds bias place
  generalize hq : threshold bias place = t at ht
  have hrest : 26 ≤ (q - t) / (36 - t) := by
    rw [Nat.le_div_iff_mul_le (by omega)]
    have hmul : 26 * (36 - t) + 26 * t = 26 * 36 := by rw [← Nat.mul_add]; omega
    omega
  rw [digits, hq, if_neg (by omega), List.length_cons]
  have := two_le_length_digits bias (place + 36) hrest
  omega

/-! ### Passes -/

/-- Nothing that was written or put in place is lost. -/
structure Progress.Le (s s' : Progress) : Prop where
  written : s.written.length ≤ s'.written.length
  count : s.count ≤ s'.count

theorem Progress.Le.trans {s₁ s₂ s₃ : Progress} (h : s₁.Le s₂) (h' : s₂.Le s₃) : s₁.Le s₃ :=
  ⟨Nat.le_trans h.written h'.written, Nat.le_trans h.count h'.count⟩

theorem pass_le (ascii code : Nat) (s : Progress) (c : Char) : s.Le (s.pass ascii code c) := by
  unfold Progress.pass
  split
  · exact ⟨Nat.le_refl _, Nat.le_refl _⟩
  · split
    · exact ⟨by simp, Nat.le_succ _⟩
    · exact ⟨Nat.le_refl _, Nat.le_refl _⟩

theorem foldl_pass_le (ascii code : Nat) (label : List Char) (s : Progress) :
    s.Le (label.foldl (Progress.pass ascii code) s) := by
  induction label generalizing s with
  | nil => exact ⟨Nat.le_refl _, Nat.le_refl _⟩
  | cons c label ih => exact (pass_le ascii code s c).trans (ih _)

/-- A character of the label is put in place, and its difference is written. -/
theorem foldl_pass_hit (ascii : Nat) (s : Progress) (h : code ∈ label.map Char.toNat) :
    s.count < (label.foldl (Progress.pass ascii code) s).count ∧
      (911 ≤ s.delta →
        s.written.length + 3 ≤ (label.foldl (Progress.pass ascii code) s).written.length) := by
  induction label generalizing s with
  | nil => cases h
  | cons c label ih =>
    rw [List.foldl_cons]
    by_cases hc : c.toNat = code
    · have hrest := foldl_pass_le ascii code label (s.pass ascii code c)
      have hpass : s.pass ascii code c = ⟨s.written ++ digits s.bias 36 s.delta, 0,
          adapt s.delta (s.count + 1) (s.count = ascii), s.count + 1⟩ := by
        rw [Progress.pass, if_neg (by omega), if_pos hc]
      refine ⟨Nat.lt_of_lt_of_le ?_ hrest.count, fun hd => Nat.le_trans ?_ hrest.written⟩
      · rw [hpass]
        exact Nat.lt_succ_self _
      · rw [hpass, List.length_append]
        exact Nat.add_le_add_left (three_le_length_digits _ _ hd) _
    · have hin : code ∈ label.map Char.toNat :=
        (List.mem_cons.mp h).resolve_left fun he => hc he.symm
      obtain ⟨hcount, hwritten⟩ := ih (s.pass ascii code c) hin
      -- a character that is passed over leaves everything but the difference, which grows
      have hpass : (s.pass ascii code c).count = s.count ∧
          (s.pass ascii code c).written = s.written ∧ s.delta ≤ (s.pass ascii code c).delta := by
        rw [Progress.pass, if_neg hc]
        split
        · exact ⟨rfl, rfl, Nat.le_succ _⟩
        · exact ⟨rfl, rfl, Nat.le_refl _⟩
      rw [hpass.1] at hcount
      rw [hpass.2.1] at hwritten
      exact ⟨hcount, fun hd => hwritten (Nat.le_trans hd hpass.2.2)⟩

/-! ### All codes -/

/-- So many characters in place make a difference of twenty codes take three digits. -/
def enough : Nat := 47

/-- Codes that lie twenty apart add three digits each, but for the first ones. -/
theorem length_encodeCodes (ascii : Nat) (s : Progress)
    (hcodes : ∀ code ∈ codes, code ∈ label.map Char.toNat)
    (hnext : ∀ code ∈ codes, next + 19 ≤ code) (happart : codes.Pairwise (· + 20 ≤ ·)) :
    s.written.length + 3 * codes.length ≤
      (encodeCodes label ascii next codes s).length + 3 * (enough - s.count) := by
  induction codes generalizing next s with
  | nil => exact Nat.le_add_right _ _
  | cons code codes ih =>
    obtain ⟨hafter, happart⟩ := List.pairwise_cons.mp happart
    rw [encodeCodes]
    obtain ⟨hcount, hwritten⟩ := foldl_pass_hit ascii
      { s with delta := s.delta + (code - next) * (s.count + 1) }
      (hcodes code List.mem_cons_self)
    have hle := foldl_pass_le ascii code label
      { s with delta := s.delta + (code - next) * (s.count + 1) }
    generalize label.foldl (Progress.pass ascii code)
      { s with delta := s.delta + (code - next) * (s.count + 1) } = s' at hcount hwritten hle ⊢
    have hbehind : ∀ x ∈ codes, code + 1 + 19 ≤ x := hafter
    have hrest := ih { s' with delta := s'.delta + 1 }
      (fun x hx => hcodes x (List.mem_cons_of_mem code hx)) hbehind happart
    have hgap := hnext code List.mem_cons_self
    have hlength := hle.written
    simp only [List.length_cons, enough] at hcount hwritten hlength hrest ⊢
    -- the first codes are paid for by the count, which grows, all later ones by their digits
    by_cases hs : s.count < 47
    · omega
    · have hdelta : 19 * 48 ≤ (code - next) * (s.count + 1) :=
        Nat.mul_le_mul (by omega) (by omega)
      have := hwritten (by omega)
      omega

/-- A label in ascending order of characters that lie far apart. -/
theorem length_encode (hascii : ∀ c ∈ label, 0x80 + 19 ≤ c.toNat)
    (happart : label.Pairwise fun a b => a.toNat + 20 ≤ b.toNat) :
    3 * label.length ≤ (encode label).length + 3 * enough := by
  have hothers : label.filter (!isAscii ·) = label := by
    refine List.filter_eq_self.mpr fun c hc => ?_
    have := hascii c hc
    simp only [isAscii, Bool.not_eq_true', decide_eq_false_iff_not]
    omega
  have hnone : label.filter isAscii = [] := by
    refine List.filter_eq_nil_iff.mpr fun c hc => ?_
    have := hascii c hc
    simp only [isAscii, decide_eq_true_eq]
    omega
  have hsorted : (label.map Char.toNat).Pairwise (· + 20 ≤ ·) := List.pairwise_map.mpr happart
  have hcodes : label.foldl (fun codes c => insertCode c.toNat codes) [] =
      label.map Char.toNat := by
    obtain ⟨hp, hm⟩ := foldl_insertCode label [] List.Pairwise.nil
    refine hp.eq_of_mem_iff (hsorted.imp fun h => by omega) fun x => ?_
    simp [hm]
  have hlength := length_encodeCodes 0 ⟨[], 0, 72, 0⟩ (fun _ h => h)
    (List.forall_mem_map.mpr hascii) hsorted
  rw [List.length_map] at hlength
  simp only [encode, hothers, hnone, hcodes]
  simpa using hlength

end Conformance.Url.Punycode
