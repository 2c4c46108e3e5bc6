import Conformance.Text.Split

/-! Cutting a text that was joined gives back its parts. -/
namespace Conformance.Text

variable {sep : Char} {cs before after : List Char} {parts : List (List Char)}

theorem cutAt_append (h : sep ∉ before) :
    cutAt sep (before ++ sep :: after) = some (before, after) := by
  induction before with
  | nil => simp [cutAt]
  | cons c before ih =>
    have hc : c ≠ sep := by
      rintro rfl
      exact h List.mem_cons_self
    have hb : sep ∉ before := fun hm => h (List.mem_cons_of_mem c hm)
    rw [List.cons_append, cutAt, if_neg hc, ih hb]
    rfl

theorem cutAt_eq_none (h : sep ∉ cs) : cutAt sep cs = none := by
  cases hc : cutAt sep cs with
  | none => rfl
  | some cut =>
    obtain ⟨before, after⟩ := cut
    obtain ⟨rfl, _⟩ := cutAt_eq_some hc
    exact absurd (List.mem_append_right before List.mem_cons_self) h

/-- Whether there is a separator, and what is before and after the first one. -/
theorem cutAt_cases (sep : Char) (cs : List Char) :
    (cutAt sep cs = none ∧ sep ∉ cs) ∨
      ∃ before after, cutAt sep cs = some (before, after) ∧ cs = before ++ sep :: after ∧
        sep ∉ before := by
  by_cases h : sep ∈ cs
  · obtain ⟨before, after, rfl, hb⟩ := List.eq_append_cons_of_mem h
    exact Or.inr ⟨before, after, cutAt_append hb, rfl, hb⟩
  · exact Or.inl ⟨cutAt_eq_none h, h⟩

/-- There is one last separator. -/
theorem append_sep_inj {before' after' : List Char} (h : sep ∉ after) (h' : sep ∉ after')
    (he : before ++ sep :: after = before' ++ sep :: after') : before = before' ∧ after = after' := by
  have hr := congrArg (cutAt sep ∘ List.reverse) he
  simp only [Function.comp_apply, List.reverse_append, List.reverse_cons, List.append_assoc,
    List.singleton_append] at hr
  rw [cutAt_append (by simpa using h), cutAt_append (by simpa using h')] at hr
  simp only [Option.some.injEq, Prod.mk.injEq, List.reverse_inj] at hr
  exact ⟨hr.2, hr.1⟩

theorem splitAt_of_not_mem (h : sep ∉ cs) : splitAt sep cs = [cs] := by
  induction cs with
  | nil => rfl
  | cons c cs ih =>
    have hc : c ≠ sep := by
      rintro rfl
      exact h List.mem_cons_self
    rw [splitAt, if_neg hc, ih fun hm => h (List.mem_cons_of_mem c hm)]

theorem splitAt_append (sep : Char) (before after : List Char) :
    splitAt sep (before ++ sep :: after) = splitAt sep before ++ splitAt sep after := by
  induction before with
  | nil => simp [splitAt]
  | cons c before ih =>
    rw [List.cons_append, splitAt, splitAt]
    by_cases hc : c = sep
    · rw [if_pos hc, if_pos hc, ih, List.cons_append]
    · rw [if_neg hc, if_neg hc, ih]
      obtain ⟨part, parts, hp⟩ := List.exists_cons_of_ne_nil (splitAt_ne_nil sep before)
      simp only [hp, List.cons_append]

theorem splitAt_eq_splitOn (sep : Char) (cs : List Char) : splitAt sep cs = cs.splitOn sep := by
  induction cs with
  | nil => rfl
  | cons c cs ih =>
    obtain ⟨part, parts, hs⟩ := List.exists_cons_of_ne_nil (splitAt_ne_nil sep cs)
    rw [splitAt, List.splitOn_cons_eq_if_modifyHead, ← ih, hs]
    simp

/-- A part without separators is one more part in front. -/
theorem splitAt_cons_part (h : sep ∉ before) :
    splitAt sep (before ++ sep :: after) = before :: splitAt sep after := by
  rw [splitAt_append, splitAt_of_not_mem h, List.singleton_append]

/-- What is put in front of a text belongs to its first part. -/
theorem splitAt_append_left (h : sep ∉ before) (after : List Char) : ∃ part parts,
    splitAt sep after = part :: parts ∧ splitAt sep (before ++ after) = (before ++ part) :: parts := by
  obtain ⟨part, parts, hs⟩ := List.exists_cons_of_ne_nil (splitAt_ne_nil sep after)
  refine ⟨part, parts, hs, ?_⟩
  induction before with
  | nil => exact hs
  | cons c before ih =>
    have hc : c ≠ sep := by
      rintro rfl
      exact h List.mem_cons_self
    rw [List.cons_append, splitAt, if_neg hc, ih fun hm => h (List.mem_cons_of_mem c hm)]
    rfl

/-- What is put behind a text belongs to its last part. -/
theorem splitAt_concat {d : Char} (hd : d ≠ sep) (cs : List Char) : ∃ parts last,
    splitAt sep cs = parts ++ [last] ∧ splitAt sep (cs ++ [d]) = parts ++ [last ++ [d]] := by
  induction cs with
  | nil => exact ⟨[], [], rfl, by simp [splitAt, hd]⟩
  | cons c cs ih =>
    obtain ⟨parts, last, h1, h2⟩ := ih
    rw [List.cons_append, splitAt, splitAt, h1, h2]
    by_cases hc : c = sep
    · exact ⟨[] :: parts, last, by rw [if_pos hc]; rfl, by rw [if_pos hc]; rfl⟩
    · rw [if_neg hc, if_neg hc]
      cases parts with
      | nil => exact ⟨[], c :: last, rfl, rfl⟩
      | cons part parts => exact ⟨(c :: part) :: parts, last, rfl, rfl⟩

theorem splitAt_joinWith (hne : parts ≠ []) (h : ∀ part ∈ parts, sep ∉ part) :
    splitAt sep (joinWith sep parts) = parts := by
  induction parts with
  | nil => exact absurd rfl hne
  | cons part parts ih =>
    have hp : sep ∉ part := h part List.mem_cons_self
    cases parts with
    | nil => exact splitAt_of_not_mem hp
    | cons next rest =>
      have hr := ih (List.cons_ne_nil next rest) fun p hm => h p (List.mem_cons_of_mem part hm)
      rw [joinWith, splitAt_cons_part hp, hr]
      exact List.cons_ne_nil next rest

theorem mem_splitAt {part : List Char} (h : part ∈ splitAt sep cs) :
    sep ∉ part ∧ ∀ c ∈ part, c ∈ cs := by
  induction cs generalizing part with
  | nil =>
    obtain rfl := List.mem_singleton.mp h
    simp
  | cons c cs ih =>
    rw [splitAt] at h
    split at h
    · obtain rfl | h := List.mem_cons.mp h
      · simp
      · exact ⟨(ih h).1, fun d hd => List.mem_cons_of_mem c ((ih h).2 d hd)⟩
    · rename_i hc
      obtain ⟨first, rest, hs⟩ := List.exists_cons_of_ne_nil (splitAt_ne_nil sep cs)
      rw [hs] at h ih
      obtain rfl | h := List.mem_cons.mp h
      · obtain ⟨hf, hm⟩ := ih List.mem_cons_self
        refine ⟨?_, fun d hd => ?_⟩
        · intro hm
          obtain rfl | hm := List.mem_cons.mp hm
          · exact hc rfl
          · exact hf hm
        · obtain rfl | hd := List.mem_cons.mp hd
          · exact List.mem_cons_self
          · exact List.mem_cons_of_mem c (hm d hd)
      · obtain ⟨hf, hm⟩ := ih (List.mem_cons_of_mem first h)
        exact ⟨hf, fun d hd => List.mem_cons_of_mem c (hm d hd)⟩

theorem mem_joinWith {c : Char} (h : c ∈ joinWith sep parts) :
    c = sep ∨ ∃ part ∈ parts, c ∈ part := by
  induction parts with
  | nil => cases h
  | cons part parts ih =>
    cases parts with
    | nil => exact Or.inr ⟨part, List.mem_cons_self, h⟩
    | cons next rest =>
      rw [joinWith, List.mem_append, List.mem_cons] at h
      · obtain h | h | h := h
        · exact Or.inr ⟨part, List.mem_cons_self, h⟩
        · exact Or.inl h
        · obtain h | ⟨p, hp, hc⟩ := ih h
          · exact Or.inl h
          · exact Or.inr ⟨p, List.mem_cons_of_mem part hp, hc⟩
      · exact List.cons_ne_nil next rest

end Conformance.Text
