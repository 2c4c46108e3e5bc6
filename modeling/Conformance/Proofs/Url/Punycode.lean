import Conformance.Url.Punycode
import Mathlib.Tactic.Ring
import Mathlib.Tactic.Linarith

/-! A label is read from the digits it was written with. Writer and reader go through the label in
step: the reader is as far as the last difference written, and the difference begun since is what
the writer has passed. -/
namespace Conformance.Url.Punycode

variable {label inserted done todo : List Char} {ascii code i : Nat} {s : Progress} {r : Reading}
  {c : Char}

theorem toNat_lt (c : Char) : c.toNat < 0x110000 := by
  have hv : c.toNat.isValidChar := c.valid
  obtain h | ⟨_, h⟩ := hv
  · exact Nat.lt_trans h (by decide)
  · exact h

theorem digitValue_digitChar {d : Nat} (h : d < 36) : digitValue (digitChar d) = some d := by
  have hall : ∀ d < 36, digitValue (digitChar d) = some d := by decide
  exact hall d h

theorem step_more {d : Nat} (hc : digitValue c = some d) (hd : threshold r.bias r.place ≤ d)
    (hi : r.index + d * r.weight < UInt32.size) :
    r.step c = some { r with
      index := r.index + d * r.weight
      weight := r.weight * (36 - threshold r.bias r.place)
      place := r.place + 36 } := by
  simp only [Reading.step, hc, Option.bind_eq_bind, Option.bind_some]
  rw [if_neg (Nat.not_le_of_lt hi), if_neg (Nat.not_lt_of_le hd)]

theorem step_last {d : Nat} (hc : digitValue c = some d) (hd : d < threshold r.bias r.place)
    (hi : r.index + d * r.weight < UInt32.size) :
    r.step c = Reading.finish { r with index := r.index + d * r.weight } := by
  simp only [Reading.step, hc, Option.bind_eq_bind, Option.bind_some]
  rw [if_neg (Nat.not_le_of_lt hi), if_pos hd]

/-- The digits of a difference are read as the difference. -/
theorem foldlM_digits (q : Nat) (r : Reading) (h : r.index + q * r.weight < UInt32.size) :
    (digits r.bias r.place q).foldlM Reading.step r =
      Reading.finish { r with index := r.index + q * r.weight } := by
  induction q using Nat.strongRecOn generalizing r with
  | ind q ih =>
    have ht := threshold_bounds r.bias r.place
    generalize hq : threshold r.bias r.place = t at ht
    rw [digits]
    simp only [hq]
    split
    · rename_i hlt
      have hd := digitValue_digitChar (d := q) (by omega)
      have hs := step_last hd (hq ▸ hlt) h
      rw [List.foldlM_cons, hs]
      exact bind_pure _
    · rename_i hge
      have hrest : (q - t) / (36 - t) < q :=
        Nat.lt_of_le_of_lt (Nat.div_le_self _ _) (by omega)
      have hmod : (q - t) % (36 - t) < 36 - t := Nat.mod_lt _ (by omega)
      have hsum : t + (q - t) % (36 - t) + (36 - t) * ((q - t) / (36 - t)) = q := by
        have := Nat.mod_add_div (q - t) (36 - t)
        omega
      have hindex : r.index + (t + (q - t) % (36 - t)) * r.weight +
          (q - t) / (36 - t) * (r.weight * (36 - t)) = r.index + q * r.weight := by
        conv_rhs => rw [← hsum]
        ring
      have hd := digitValue_digitChar (d := t + (q - t) % (36 - t)) (by omega)
      have hs := step_more (r := r) hd (by omega) (by omega)
      rw [List.foldlM_cons, hs, Option.bind_eq_bind, Option.bind_some, hq]
      have hr := ih ((q - t) / (36 - t)) hrest
        { r with
          index := r.index + (t + (q - t) % (36 - t)) * r.weight
          weight := r.weight * (36 - t)
          place := r.place + 36 } (by simpa only [hindex] using h)
      simp only [hindex] at hr
      exact hr

def IsDigit (c : Char) : Prop := ∃ d < 36, c = digitChar d

theorem isDigit_of_mem_digits {bias place q : Nat} (h : c ∈ digits bias place q) : IsDigit c := by
  induction q using Nat.strongRecOn generalizing place with
  | ind q ih =>
    have ht := threshold_bounds bias place
    generalize hq : threshold bias place = t at ht
    rw [digits] at h
    simp only [hq] at h
    split at h
    · rename_i hlt
      exact ⟨q, by omega, List.mem_singleton.mp h⟩
    · rename_i hge
      have hmod : (q - t) % (36 - t) < 36 - t := Nat.mod_lt _ (by omega)
      obtain h | h := List.mem_cons.mp h
      · exact ⟨t + (q - t) % (36 - t), by omega, h⟩
      · exact ih _ (Nat.lt_of_le_of_lt (Nat.div_le_self _ _) (by omega)) h

/-- The reader has put `inserted` in place, and the writer has passed `i` of them on its way with
the code `code`. -/
structure InStep (ascii : Nat) (s : Progress) (r : Reading) (inserted : List Char) (code i : Nat) :
    Prop where
  label : r.label = inserted
  bias : r.bias = s.bias
  weight : r.weight = 1
  place : r.place = 36
  since : r.since = r.index
  count : s.count = inserted.length
  atLeast : ascii ≤ s.count
  isFirst : s.count = ascii ↔ r.since = 0
  code_le : r.code ≤ code
  steps : r.code * (inserted.length + 1) + r.index + s.delta = code * (inserted.length + 1) + i

theorem InStep.index_eq (h : InStep ascii s r inserted code i) :
    r.index + s.delta = (code - r.code) * (inserted.length + 1) + i := by
  have hs := h.steps
  obtain ⟨k, rfl⟩ := Nat.exists_eq_add_of_le h.code_le
  rw [Nat.add_mul] at hs
  rw [Nat.add_sub_cancel_left]
  omega

theorem Reading.finish_eq {r : Reading} (hc : r.code + r.index / (r.label.length + 1) = c.toNat)
    (hi : r.index % (r.label.length + 1) = i) :
    r.finish = some ⟨r.label.take i ++ c :: r.label.drop i, c.toNat, i + 1, i + 1,
      adapt (r.index - r.since) (r.label.length + 1) (r.since = 0), 1, 36⟩ := by
  subst hi
  have hvalid : (r.code + r.index / (r.label.length + 1)).isValidChar := hc ▸ c.valid
  rw [← hc]
  refine (dif_pos hvalid).trans ?_
  have hchar : Char.ofNatAux _ hvalid = c := Char.ext (UInt32.toNat_inj.mp hc)
  rw [hchar]

/-- At the end of a difference the reader puts in place what the writer has come to. -/
theorem InStep.finish (h : InStep ascii s r inserted c.toNat i) (hi : i ≤ inserted.length) :
    Reading.finish { r with index := r.index + s.delta } =
      some ⟨inserted.take i ++ c :: inserted.drop i, c.toNat, i + 1, i + 1,
        adapt s.delta (s.count + 1) (s.count = ascii), 1, 36⟩ := by
  have hx := h.index_eq
  have hdiv : (r.index + s.delta) / (inserted.length + 1) = c.toNat - r.code := by
    rw [hx, Nat.add_comm, Nat.add_mul_div_right _ _ (Nat.succ_pos _),
      Nat.div_eq_of_lt (Nat.lt_succ_of_le hi), Nat.zero_add]
  have hmod : (r.index + s.delta) % (inserted.length + 1) = i := by
    rw [hx, Nat.add_comm, Nat.add_mul_mod_self_right, Nat.mod_eq_of_lt (Nat.lt_succ_of_le hi)]
  have hcode : r.code + (c.toNat - r.code) = c.toNat := Nat.add_sub_cancel' h.code_le
  have hfirst : decide (r.index = 0) = decide (s.count = ascii) :=
    decide_eq_decide.mpr (h.since ▸ h.isFirst.symm)
  have hindex : r.index + s.delta - r.index = s.delta := Nat.add_sub_cancel_left _ _
  rw [Reading.finish_eq (c := c) (i := i)]
  · simp only [h.label, h.since, hindex, h.count, hfirst]
  · rw [h.label, hdiv, hcode]
  · rw [h.label, hmod]

/-- What is in place when the writer, looking for `code`, has `done` behind it. -/
def placed (code : Nat) (done todo : List Char) : List Char :=
  done.filter (·.toNat ≤ code) ++ todo.filter (·.toNat < code)

/-- How many of them the writer has passed. -/
def passed (code : Nat) (done : List Char) : Nat := (done.filter (·.toNat ≤ code)).length

theorem passed_le (code : Nat) (done todo : List Char) :
    passed code done ≤ (placed code done todo).length := by
  rw [passed, placed, List.length_append]
  exact Nat.le_add_right _ _

theorem length_placed_le (code : Nat) (done todo : List Char) :
    (placed code done todo).length ≤ done.length + todo.length := by
  rw [placed, List.length_append]
  exact Nat.add_le_add (List.length_filter_le _ _) (List.length_filter_le _ _)

theorem placed_keep (h : c.toNat ≠ code) :
    placed code (done ++ [c]) todo = placed code done (c :: todo) := by
  rw [placed, placed, List.filter_append, List.append_assoc]
  by_cases hc : c.toNat < code
  · simp [hc, Nat.le_of_lt hc]
  · simp [hc, show ¬ c.toNat ≤ code by omega]

theorem placed_insert (done todo : List Char) :
    placed c.toNat (done ++ [c]) todo =
      (placed c.toNat done (c :: todo)).take (passed c.toNat done) ++
        c :: (placed c.toNat done (c :: todo)).drop (passed c.toNat done) := by
  simp [placed, passed]

/-- The digits that were written since bring the reader from `r` to `r'`. -/
def ReadsOn (before after : List Char) (r r' : Reading) : Prop :=
  ∃ deltas, after = before ++ deltas ∧ (∀ x ∈ deltas, IsDigit x) ∧
    deltas.foldlM Reading.step r = some r'

theorem ReadsOn.refl (written : List Char) (r : Reading) : ReadsOn written written r r :=
  ⟨[], (List.append_nil _).symm, List.forall_mem_nil _, rfl⟩

theorem ReadsOn.trans {first second third : List Char} {r r' r'' : Reading}
    (h : ReadsOn first second r r') (h' : ReadsOn second third r' r'') :
    ReadsOn first third r r'' := by
  obtain ⟨deltas, rfl, hd, hr⟩ := h
  obtain ⟨deltas', rfl, hd', hr'⟩ := h'
  refine ⟨deltas ++ deltas', List.append_assoc _ _ _, List.forall_mem_append.mpr ⟨hd, hd'⟩, ?_⟩
  rw [List.foldlM_append, hr]
  exact hr'

/-- The writer counts the characters it passes that are in place. -/
theorem InStep.skip (h : InStep ascii s r (placed code done (c :: todo)) code (passed code done))
    (hlt : c.toNat < code) :
    InStep ascii { s with delta := s.delta + 1 } r (placed code (done ++ [c]) todo) code
      (passed code (done ++ [c])) := by
  have hs := h.steps
  rw [placed_keep (Nat.ne_of_lt hlt)]
  exact { h with
    steps := by
      simp only [passed, List.filter_append, List.length_append] at hs ⊢
      simp only [List.filter_cons, List.filter_nil, Nat.le_of_lt hlt, decide_true, if_true,
        List.length_cons, List.length_nil]
      omega }

/-- A difference the writer may come to can be read without overflow. -/
theorem InStep.index_lt (h : InStep ascii s r inserted c.toNat i) (hl : inserted.length ≤ 1000)
    (hi : i ≤ inserted.length) : r.index + s.delta < UInt32.size := by
  have hx := h.index_eq
  have hcode := toNat_lt c
  have hmul : (c.toNat - r.code) * (inserted.length + 1) ≤ 0x110000 * 1001 :=
    Nat.mul_le_mul (by omega) (by omega)
  have hlt : 0x110000 * 1001 + 1000 < UInt32.size := by decide
  omega

/-- The writer ends a difference, and the reader puts the character in place. -/
theorem InStep.insert
    (h : InStep ascii s r (placed c.toNat done (c :: todo)) c.toNat (passed c.toNat done))
    (hl : done.length + todo.length < 1000) :
    ∃ r', ReadsOn s.written (s.written ++ digits s.bias 36 s.delta) r r' ∧
      InStep ascii ⟨s.written ++ digits s.bias 36 s.delta, 0,
          adapt s.delta (s.count + 1) (s.count = ascii), s.count + 1⟩ r'
        (placed c.toNat (done ++ [c]) todo) c.toNat (passed c.toNat (done ++ [c])) := by
  have hlen := length_placed_le c.toNat done (c :: todo)
  have hp := passed_le c.toNat done (c :: todo)
  rw [List.length_cons] at hlen
  have hindex : r.index + s.delta * r.weight = r.index + s.delta := by
    rw [h.weight, Nat.mul_one]
  have hread := foldlM_digits s.delta r (hindex ▸ h.index_lt (by omega) hp)
  rw [hindex, h.finish hp, ← placed_insert, h.bias, h.place] at hread
  have hcount : (placed c.toNat (done ++ [c]) todo).length = s.count + 1 := by
    rw [placed_insert, h.count]
    simp
    omega
  refine ⟨_, ⟨_, rfl, fun _ => isDigit_of_mem_digits, hread⟩,
    rfl, rfl, rfl, rfl, rfl, hcount.symm, ?_, ?_, Nat.le_refl _, ?_⟩
  · exact Nat.le_succ_of_le h.atLeast
  · have := h.atLeast
    simp only [Nat.succ_ne_zero, iff_false]
    omega
  · simp [passed]

/-- Passing one character of the label keeps writer and reader in step. -/
theorem InStep.pass (h : InStep ascii s r (placed code done (c :: todo)) code (passed code done))
    (hl : done.length + todo.length < 1000) :
    ∃ r', ReadsOn s.written (s.pass ascii code c).written r r' ∧
      InStep ascii (s.pass ascii code c) r' (placed code (done ++ [c]) todo) code
        (passed code (done ++ [c])) := by
  rw [Progress.pass]
  split
  · rename_i hlt
    exact ⟨r, .refl _ r, h.skip hlt⟩
  · split
    · rename_i hc
      subst hc
      exact h.insert hl
    · rename_i hge hne
      have hgt : ¬ c.toNat ≤ code := by omega
      refine ⟨r, .refl _ r, ?_⟩
      rw [placed_keep hne]
      simpa [passed, List.filter_append, hgt] using h

/-- Writer and reader stay in step from one end of the label to the other. -/
theorem InStep.foldl_pass
    (h : InStep ascii s r (placed code done todo) code (passed code done))
    (hl : done.length + todo.length ≤ 1000) :
    ∃ r', ReadsOn s.written (todo.foldl (Progress.pass ascii code) s).written r r' ∧
      InStep ascii (todo.foldl (Progress.pass ascii code) s) r' (placed code (done ++ todo) []) code
        (passed code (done ++ todo)) := by
  induction todo generalizing done s r with
  | nil =>
    refine ⟨r, .refl _ r, ?_⟩
    rwa [List.append_nil]
  | cons c todo ih =>
    rw [List.length_cons] at hl
    obtain ⟨r', hr, hs⟩ := h.pass (by omega)
    have hl' : (done ++ [c]).length + todo.length ≤ 1000 := by
      rw [List.length_append]
      simp only [List.length_cons, List.length_nil]
      omega
    obtain ⟨r'', hr', hs'⟩ := ih hs hl'
    rw [List.append_assoc] at hs'
    exact ⟨r'', hr.trans hr', hs'⟩

/-! ### All codes -/

theorem mem_insertCode {x y : Nat} {codes : List Nat} :
    x ∈ insertCode y codes ↔ x = y ∨ x ∈ codes := by
  induction codes with
  | nil => simp [insertCode]
  | cons z codes ih =>
    rw [insertCode]
    split
    · simp
    · split
      · rename_i hz
        subst hz
        simp
      · simp only [List.mem_cons, ih]
        exact or_left_comm

theorem pairwise_insertCode {y : Nat} {codes : List Nat} (h : codes.Pairwise (· < ·)) :
    (insertCode y codes).Pairwise (· < ·) := by
  induction codes with
  | nil => simp [insertCode]
  | cons z codes ih =>
    obtain ⟨hz, hc⟩ := List.pairwise_cons.mp h
    rw [insertCode]
    split
    · rename_i hlt
      refine List.pairwise_cons.mpr ⟨fun x hx => ?_, h⟩
      obtain rfl | hx := List.mem_cons.mp hx
      · exact hlt
      · exact Nat.lt_trans hlt (hz x hx)
    · split
      · exact h
      · refine List.pairwise_cons.mpr ⟨fun x hx => ?_, ih hc⟩
        obtain rfl | hx := mem_insertCode.mp hx
        · omega
        · exact hz x hx

/-- The codes of a text are taken in increasing order, each once. -/
theorem foldl_insertCode (others : List Char) (codes : List Nat) (h : codes.Pairwise (· < ·)) :
    (others.foldl (fun codes c => insertCode c.toNat codes) codes).Pairwise (· < ·) ∧
      ∀ x, x ∈ others.foldl (fun codes c => insertCode c.toNat codes) codes ↔
        x ∈ codes ∨ ∃ c ∈ others, c.toNat = x := by
  induction others generalizing codes with
  | nil => exact ⟨h, by simp⟩
  | cons c others ih =>
    obtain ⟨hp, hm⟩ := ih (insertCode c.toNat codes) (pairwise_insertCode h)
    refine ⟨hp, fun x => ?_⟩
    rw [List.foldl_cons, hm, mem_insertCode]
    simp only [List.mem_cons, exists_eq_or_imp]
    constructor
    · rintro ((rfl | h) | h)
      · exact Or.inr (Or.inl rfl)
      · exact Or.inl h
      · exact Or.inr (Or.inr h)
    · rintro (h | rfl | h)
      · exact Or.inl (Or.inr h)
      · exact Or.inl (Or.inl rfl)
      · exact Or.inr h

/-- What is in place before the characters from `next` on are. -/
def below (next : Nat) (label : List Char) : List Char := label.filter (·.toNat < next)

theorem below_eq {next : Nat} (hle : next ≤ code)
    (h : ∀ c ∈ label, c.toNat < next ∨ code ≤ c.toNat) : below code label = below next label := by
  apply List.filter_congr
  intro c hc
  rw [decide_eq_decide]
  obtain hc | hc := h c hc
  · omega
  · omega

/-- Going on to a code that nothing stands before keeps writer and reader in step. -/
theorem InStep.advance {next : Nat} (h : InStep ascii s r (below next label) next 0)
    (hle : next ≤ code) (hbelow : below code label = below next label) :
    InStep ascii { s with delta := s.delta + (code - next) * (s.count + 1) } r
      (placed code [] label) code (passed code []) := by
  have hs := h.steps
  have hplaced : placed code [] label = below next label := by
    rw [← hbelow]
    rfl
  obtain ⟨k, rfl⟩ := Nat.exists_eq_add_of_le hle
  rw [hplaced]
  exact { h with
    code_le := Nat.le_trans h.code_le hle
    steps := by
      simp only [passed, List.filter_nil, List.length_nil, Nat.add_sub_cancel_left, h.count,
        Nat.add_mul]
      omega }

/-- Behind the last character of a label comes its beginning, with the next code. -/
theorem InStep.turn (h : InStep ascii s r (placed code label []) code (passed code label)) :
    InStep ascii { s with delta := s.delta + 1 } r (below (code + 1) label) (code + 1) 0 := by
  have hs := h.steps
  have hplaced : placed code label [] = below (code + 1) label := by
    rw [placed, below, List.filter_nil, List.append_nil]
    exact List.filter_congr fun c _ => decide_eq_decide.mpr Nat.lt_succ_iff.symm
  have hpassed : passed code label = (placed code label []).length := by
    rw [placed, List.filter_nil, List.append_nil, passed]
  rw [hpassed] at hs
  rw [← hplaced]
  exact { h with
    code_le := Nat.le_succ_of_le h.code_le
    steps := by
      simp only [Nat.add_mul]
      omega }

theorem encodeCodes_reads {next : Nat} {codes : List Nat}
    (h : InStep ascii s r (below next label) next 0) (hl : label.length ≤ 1000)
    (hsorted : (next :: codes).Pairwise (· ≤ ·)) (hdistinct : codes.Pairwise (· < ·))
    (hcodes : ∀ c ∈ label, c.toNat < next ∨ c.toNat ∈ codes) :
    ∃ r', ReadsOn s.written (encodeCodes label ascii next codes s) r r' ∧
      r'.label = label ∧ r'.place = 36 := by
  induction codes generalizing next s r with
  | nil =>
    refine ⟨r, .refl _ r, ?_, h.place⟩
    rw [h.label, below, List.filter_eq_self]
    intro c hc
    obtain hc | hc := hcodes c hc
    · exact decide_eq_true hc
    · cases hc
  | cons code codes ih =>
    obtain ⟨hnext, hrest⟩ := List.pairwise_cons.mp hsorted
    obtain ⟨hlt, hdistinct'⟩ := List.pairwise_cons.mp hdistinct
    have hle : next ≤ code := hnext code List.mem_cons_self
    have hbelow : below code label = below next label := by
      refine below_eq hle fun c hc => ?_
      obtain hc | hc := hcodes c hc
      · exact Or.inl hc
      · obtain hc | hc := List.mem_cons.mp hc
        · exact Or.inr (Nat.le_of_eq hc.symm)
        · exact Or.inr (Nat.le_of_lt (hlt _ hc))
    have hstart := h.advance hle hbelow
    obtain ⟨r', hr, hs⟩ := hstart.foldl_pass (by simpa using hl)
    rw [List.nil_append] at hs
    have hsorted' : ((code + 1) :: codes).Pairwise (· ≤ ·) :=
      List.pairwise_cons.mpr ⟨fun x hx => hlt x hx, (List.pairwise_cons.mp hrest).2⟩
    have hcodes' : ∀ c ∈ label, c.toNat < code + 1 ∨ c.toNat ∈ codes := by
      intro c hc
      obtain hc | hc := hcodes c hc
      · exact Or.inl (by omega)
      · obtain hc | hc := List.mem_cons.mp hc
        · exact Or.inl (by omega)
        · exact Or.inr hc
    obtain ⟨r'', hr', hlabel⟩ := ih hs.turn hsorted' hdistinct' hcodes'
    exact ⟨r'', hr.trans hr', hlabel⟩

/-! ### Whole labels -/

/-- The ASCII characters of a label, and the hyphen behind them. -/
def front (label : List Char) : List Char :=
  if (label.filter isAscii).isEmpty then [] else label.filter isAscii ++ ['-']

/-- Behind the ASCII characters stand digits, from which the reader gets the whole label. -/
theorem encode_reads (hl : label.length ≤ 1000) :
    ∃ r, ReadsOn (front label) (encode label) ⟨label.filter isAscii, 0x80, 0, 0, 72, 1, 36⟩ r ∧
      r.label = label ∧ r.place = 36 := by
  obtain ⟨hp, hm⟩ := foldl_insertCode (label.filter (!isAscii ·)) [] List.Pairwise.nil
  have hmem : ∀ c ∈ label, 0x80 ≤ c.toNat → c.toNat ∈ (label.filter (!isAscii ·)).foldl
      (fun codes c => insertCode c.toNat codes) [] := by
    intro c hc hge
    refine (hm c.toNat).mpr (Or.inr ⟨c, List.mem_filter.mpr ⟨hc, ?_⟩, rfl⟩)
    simpa [isAscii] using hge
  have hge : ∀ x ∈ (label.filter (!isAscii ·)).foldl (fun codes c => insertCode c.toNat codes) [],
      0x80 ≤ x := by
    intro x hx
    obtain hx | ⟨c, hc, rfl⟩ := (hm x).mp hx
    · cases hx
    · simpa [isAscii] using (List.mem_filter.mp hc).2
  have hstart : InStep (label.filter isAscii).length
      ⟨front label, 0, 72, (label.filter isAscii).length⟩
      ⟨label.filter isAscii, 0x80, 0, 0, 72, 1, 36⟩ (below 0x80 label) 0x80 0 :=
    ⟨rfl, rfl, rfl, rfl, rfl, rfl, Nat.le_refl _, by simp, Nat.le_refl _, rfl⟩
  have hsorted := List.pairwise_cons.mpr ⟨hge, hp.imp Nat.le_of_lt⟩
  refine encodeCodes_reads hstart hl hsorted hp fun c hc => ?_
  by_cases hlt : c.toNat < 0x80
  · exact Or.inl hlt
  · exact Or.inr (hmem c hc (Nat.le_of_not_lt hlt))

theorem IsDigit.ne_hyphen (h : IsDigit c) : c ≠ '-' := by
  obtain ⟨d, hd, rfl⟩ := h
  have hall : ∀ d < 36, digitChar d ≠ '-' := by decide
  exact hall d hd

theorem cutLast_append {before after : List Char} (h : '-' ∉ after) :
    cutLast (before ++ '-' :: after) = (before, after) := by
  have hafter : ((before ++ '-' :: after).reverse.takeWhile (· ≠ '-')).reverse = after := by
    have hall : ∀ c ∈ after.reverse, decide (c ≠ '-') = true := by
      intro c hc
      refine decide_eq_true ?_
      rintro rfl
      exact h (List.mem_reverse.mp hc)
    rw [List.reverse_append, List.reverse_cons, List.append_assoc,
      List.takeWhile_append_of_pos hall]
    simp
  have hc : (before ++ '-' :: after).contains '-' = true := by simp
  have hlen : (before ++ '-' :: after).length - after.length - 1 = before.length := by
    simp
    omega
  simp only [cutLast, hc, if_true, hafter, hlen, List.take_left]

theorem cutLast_eq_self {cs : List Char} (h : '-' ∉ cs) : cutLast cs = ([], cs) := by
  simp [cutLast, h]

/-- What was written of a label is read as the label. -/
theorem decode_encode (hl : label.length ≤ 1000) : decode (encode label) = some label := by
  obtain ⟨r, ⟨deltas, he, hd, hr⟩, hlabel, hplace⟩ := encode_reads hl
  have hh : '-' ∉ deltas := fun hm => (hd _ hm).ne_hyphen rfl
  have hcut : cutLast (encode label) = (label.filter isAscii, deltas) := by
    rw [he, front]
    split
    · rename_i hempty
      rw [List.nil_append, cutLast_eq_self hh, List.isEmpty_iff.mp hempty]
    · rw [List.append_assoc, List.singleton_append, cutLast_append hh]
  simp only [decode, hcut, hr, Option.bind_eq_bind, Option.bind_some, Reading.isDone, hplace,
    decide_true, if_true, hlabel]

/-- What is written of a label are its ASCII characters, hyphens and digits. -/
theorem mem_encode (hl : label.length ≤ 1000) (h : c ∈ encode label) :
    (c ∈ label ∧ isAscii c = true) ∨ c = '-' ∨ IsDigit c := by
  obtain ⟨_, ⟨deltas, he, hd, _⟩, _⟩ := encode_reads hl
  rw [he, front, List.mem_append] at h
  obtain h | h := h
  · split at h
    · cases h
    · rw [List.mem_append, List.mem_singleton] at h
      obtain h | h := h
      · exact Or.inl (List.mem_filter.mp h)
      · exact Or.inr (Or.inl h)
  · exact Or.inr (Or.inr (hd c h))

/-! ### What a reader keeps and adds -/

/-- A step keeps what is in place, and adds nothing in ASCII. -/
structure Grows (r r' : Reading) : Prop where
  keeps : ∀ c ∈ r.label, c ∈ r'.label
  adds : ∀ c ∈ r'.label, c ∈ r.label ∨ 0x80 ≤ c.toNat
  code : r.code ≤ r'.code

theorem finish_grows {r' : Reading} (hc : 0x80 ≤ r.code) (h : r.finish = some r') : Grows r r' := by
  by_cases hv : (r.code + r.index / (r.label.length + 1)).isValidChar
  · rw [Reading.finish_eq (c := Char.ofNatAux _ hv) rfl rfl] at h
    cases h
    have hcode := Nat.le_add_right r.code (r.index / (r.label.length + 1))
    refine ⟨fun c hm => ?_, fun c hm => ?_, hcode⟩
    · rw [← List.take_append_drop (r.index % (r.label.length + 1)) r.label, List.mem_append] at hm
      obtain hm | hm := hm
      · exact List.mem_append_left _ hm
      · exact List.mem_append_right _ (List.mem_cons_of_mem _ hm)
    · obtain hm | hm := List.mem_append.mp hm
      · exact Or.inl (List.mem_of_mem_take hm)
      · obtain rfl | hm := List.mem_cons.mp hm
        · exact Or.inr (Nat.le_trans hc hcode)
        · exact Or.inl (List.mem_of_mem_drop hm)
  · cases (dif_neg hv : r.finish = none).symm.trans h

theorem step_grows {r' : Reading} (hc : 0x80 ≤ r.code) (h : r.step c = some r') :
    Grows r r' ∧ (digitValue c).isSome := by
  cases hd : digitValue c with
  | none => simp [Reading.step, hd] at h
  | some d =>
    refine ⟨?_, rfl⟩
    simp only [Reading.step, hd, Option.bind_eq_bind, Option.bind_some] at h
    split at h
    · cases h
    · split at h
      · have g := finish_grows (r := { r with index := r.index + d * r.weight }) hc h
        exact ⟨g.keeps, g.adds, g.code⟩
      · cases h
        exact ⟨fun _ hm => hm, fun _ hm => Or.inl hm, Nat.le_refl _⟩

theorem foldlM_step_grows {r r' : Reading} {deltas : List Char} (hc : 0x80 ≤ r.code)
    (h : deltas.foldlM Reading.step r = some r') :
    Grows r r' ∧ ∀ c ∈ deltas, (digitValue c).isSome := by
  induction deltas generalizing r with
  | nil =>
    cases h
    exact ⟨⟨fun _ hm => hm, fun _ hm => Or.inl hm, Nat.le_refl _⟩, List.forall_mem_nil _⟩
  | cons d deltas ih =>
    rw [List.foldlM_cons, Option.bind_eq_bind, Option.bind_eq_some_iff] at h
    obtain ⟨r1, h1, h2⟩ := h
    obtain ⟨g1, hd⟩ := step_grows hc h1
    obtain ⟨g2, hds⟩ := ih (Nat.le_trans hc g1.code) h2
    refine ⟨⟨fun c hm => g2.keeps c (g1.keeps c hm), fun c hm => ?_, ?_⟩, ?_⟩
    · obtain hm | hm := g2.adds c hm
      · exact g1.adds c hm
      · exact Or.inr hm
    · exact Nat.le_trans g1.code g2.code
    · intro c hm
      obtain rfl | hm := List.mem_cons.mp hm
      · exact hd
      · exact hds c hm

theorem cutLast_spec (cs : List Char) :
    (∀ c ∈ (cutLast cs).1, c ∈ cs) ∧
      ∀ c ∈ cs, c ∈ (cutLast cs).1 ∨ c = '-' ∨ c ∈ (cutLast cs).2 := by
  by_cases h : '-' ∈ cs
  · obtain ⟨after, before, hr, hn⟩ := List.eq_append_cons_of_mem (List.mem_reverse.mpr h)
    have hcs : cs = before.reverse ++ '-' :: after.reverse := by
      rw [← List.reverse_reverse cs, hr]
      simp
    rw [hcs, cutLast_append fun hm => hn (List.mem_reverse.mp hm)]
    refine ⟨fun c hm => List.mem_append_left _ hm, fun c hm => ?_⟩
    obtain hm | hm := List.mem_append.mp hm
    · exact Or.inl hm
    · exact Or.inr (List.mem_cons.mp hm)
  · rw [cutLast_eq_self h]
    exact ⟨List.forall_mem_nil _, fun _ hm => Or.inr (Or.inr hm)⟩

/-- A label has the ASCII characters that stand before its digits, and no others. -/
theorem mem_decode {cs : List Char} (h : decode cs = some label) :
    (∀ c ∈ label, c ∈ cs ∨ 0x80 ≤ c.toNat) ∧
      ∀ c ∈ cs, digitValue c = none → c ≠ '-' → c ∈ label := by
  simp only [decode, Option.bind_eq_bind, Option.bind_eq_some_iff] at h
  obtain ⟨r, hr, h⟩ := h
  split at h
  · cases h
    obtain ⟨g, hd⟩ := foldlM_step_grows (Nat.le_refl 0x80) hr
    obtain ⟨hin, hout⟩ := cutLast_spec cs
    refine ⟨fun c hm => ?_, fun c hm hn hh => ?_⟩
    · obtain hm | hm := g.adds c hm
      · exact Or.inl (hin c hm)
      · exact Or.inr hm
    · obtain hm | rfl | hm := hout c hm
      · exact g.keeps c hm
      · exact absurd rfl hh
      · have hs := hd c hm
        rw [hn] at hs
        cases hs
  · cases h

end Conformance.Url.Punycode
