import Conformance.Proofs.Outcome
import Conformance.Proofs.Text.Split
import Conformance.Url.Reader

/-! The pieces into which the text of a web address is cut before any of them is read. What is put
behind an address goes to its path, its query or its fragment, and never to its authority. -/
namespace Conformance.Url

open Outcome

variable {text : String} {c mark : Char} {cs ds scheme rest : List Char} {u : Url}

/-- The schemes of web addresses. -/
def Web (scheme : List Char) : Prop := scheme = "http".toList ∨ scheme = "https".toList

instance : DecidablePred Web := fun _ => inferInstanceAs (Decidable (_ ∨ _))

theorem Web.isSpecial (h : Web scheme) : isSpecial scheme = true := by
  obtain rfl | rfl := h <;> rfl

theorem Web.ne_file (h : Web scheme) : scheme ≠ "file".toList := by
  obtain rfl | rfl := h <;> decide

/-! ### What counts of a text -/

theorem trimBy_concat {p : Char → Bool} {c : Char} (hc : p c = false) (cs : List Char) :
    Text.trimBy p (cs ++ [c]) = cs.dropWhile p ++ [c] := by
  have hfront : (cs ++ [c]).dropWhile p = cs.dropWhile p ++ [c] := by
    rw [List.dropWhile_append]
    split
    · rename_i he
      rw [List.isEmpty_iff.mp he]
      simp [hc]
    · rfl
  rw [Text.trimBy, hfront, List.reverse_append, List.reverse_singleton, List.singleton_append,
    List.dropWhile_cons_of_neg (by rw [hc]; decide)]
  simp

theorem trimBy_eq_self {p : Char → Bool} (hh : ∀ c, cs.head? = some c → p c = false)
    (hl : ∀ c, cs.getLast? = some c → p c = false) : Text.trimBy p cs = cs := by
  obtain rfl | ⟨front, last, rfl⟩ := List.eq_nil_or_concat cs
  · rfl
  · rw [List.concat_eq_append] at hh hl ⊢
    rw [trimBy_concat (hl last List.getLast?_concat)]
    cases front with
    | nil => rfl
    | cons c front => rw [List.dropWhile_cons_of_neg (by rw [hh c rfl]; decide)]

/-- A text counts as a whole if it begins and ends visibly and all on one line. -/
theorem significant_eq_self (hh : ∀ c, text.toList.head? = some c → 0x20 < c.toNat)
    (hl : ∀ c, text.toList.getLast? = some c → 0x20 < c.toNat)
    (hn : ∀ c ∈ text.toList, isLineSpace c = false) : significant text = text.toList := by
  have hedge : ∀ c : Char, 0x20 < c.toNat → decide (c.toNat ≤ 0x20) = false := fun c hc =>
    decide_eq_false (Nat.not_le.mpr hc)
  rw [significant, trimBy_eq_self (fun c hc => hedge c (hh c hc)) fun c hc => hedge c (hl c hc),
    List.filter_eq_self]
  intro c hc
  rw [hn c hc]
  rfl

theorem isLineSpace_eq_false : isLineSpace c = false ↔ c ≠ '\t' ∧ c ≠ '\n' ∧ c ≠ '\r' := by
  simp [isLineSpace, and_assoc]

theorem isLineSpace_of_visible (h : 0x20 < c.toNat) : isLineSpace c = false := by
  refine isLineSpace_eq_false.mpr ⟨?_, ?_, ?_⟩ <;> (rintro rfl; exact absurd h (by decide))

theorem significant_of_visible (h : ∀ c ∈ text.toList, 0x20 < c.toNat) :
    significant text = text.toList :=
  significant_eq_self (fun c hc => h c (List.mem_of_mem_head? hc))
    (fun c hc => h c (List.mem_of_getLast? hc)) fun c hc => isLineSpace_of_visible (h c hc)

/-! ### Cutting -/

/-- The texts between the delimiters of a web address, after its scheme. -/
structure Pieces where
  authority : List Char
  path : List Char
  query : Option (List Char)
  fragment : Option (List Char)
deriving DecidableEq

/-- The text up to the query, the query and the fragment. -/
def cutTail (cs : List Char) : List Char × Option (List Char) × Option (List Char) :=
  let (rest, fragment) := cutMarked '#' cs
  let (rest, query) := cutMarked '?' rest
  (rest, query, fragment)

/-- The authority and the path, after all slashes in front of them. -/
def cutFront (cs : List Char) : List Char × List Char :=
  cutPath true (cs.dropWhile (isSlash true))

def Pieces.cut (cs : List Char) : Pieces :=
  let (front, query, fragment) := cutTail cs
  let (authority, path) := cutFront front
  ⟨authority, path, query, fragment⟩

/-- An address of which the authority was read, with path, query and fragment. -/
def Pieces.complete (p : Pieces) (u : Url) : Url :=
  { u with
    path := readPath true p.path
    query := p.query.map (percentEncode keptInSpecialQuery)
    fragment := p.fragment.map (percentEncode keptInFragment) }

theorem read_web (hs : cutScheme (significant text) = some (scheme, rest)) (hw : Web scheme) :
    read text = (readAuthority scheme (Pieces.cut rest).authority).map
      (Pieces.cut rest).complete := by
  simp only [read, hs, readHierarchy, if_neg hw.ne_file, hw.isSpecial, if_true, Pieces.cut,
    cutTail, cutFront]
  cases readAuthority scheme (cutPath true
      ((cutMarked '?' (cutMarked '#' rest).1).1.dropWhile (isSlash true))).1 with
  | error e => rfl
  | ok u => rfl

theorem readAuthority_scheme {authority : List Char} (h : readAuthority scheme authority = .ok u) :
    u.scheme = scheme := by
  unfold readAuthority at h
  dsimp only at h
  split at h
  · cases h
  · split at h
    · simp only [bind_eq_ok] at h
      obtain ⟨_, _, _, _, h⟩ := h
      cases h
      rfl
    · simp only [bind_eq_ok] at h
      obtain ⟨_, _, _, _, h⟩ := h
      cases h
      rfl

theorem readFile_scheme (h : readFile scheme cs = .ok u) : u.scheme = scheme := by
  unfold readFile at h
  generalize (if (cs.take 2).length = 2 ∧ (cs.take 2).all (isSlash true) then
    cutPath true (cs.drop 2) else ([], cs)) = cut at h
  dsimp only at h
  generalize (if isDrive cut.1 then ([], cut.1 ++ cut.2) else (cut.1, cut.2)) = cut' at h
  split at h
  · obtain ⟨_, _, h⟩ := bind_eq_ok.mp h
    cases h
    rfl
  · obtain ⟨_, _, h⟩ := bind_eq_ok.mp h
    cases h
    rfl

theorem readHierarchy_scheme (h : readHierarchy scheme cs = .ok u) : u.scheme = scheme := by
  unfold readHierarchy at h
  dsimp only at h
  split at h
  · exact readFile_scheme h
  · split at h
    · obtain ⟨v, hv, h⟩ := bind_eq_ok.mp h
      have hs := readAuthority_scheme hv
      cases h
      exact hs
    · split at h
      · obtain ⟨v, hv, h⟩ := bind_eq_ok.mp h
        have hs := readAuthority_scheme hv
        cases h
        exact hs
      · cases h
        rfl
      · cases h
        rfl

/-- How a web address was read. -/
theorem read_web_inv (h : read text = .ok u) (hw : Web u.scheme) : ∃ rest v,
    cutScheme (significant text) = some (u.scheme, rest) ∧
      readAuthority u.scheme (Pieces.cut rest).authority = .ok v ∧
      u = (Pieces.cut rest).complete v := by
  cases hs : cutScheme (significant text) with
  | none =>
    rw [read, hs] at h
    cases h
  | some cut =>
    obtain ⟨scheme, rest⟩ := cut
    have hscheme : u.scheme = scheme := by
      simp only [read, hs] at h
      obtain ⟨v, hv, he⟩ := bind_eq_ok.mp h
      have hv := readHierarchy_scheme hv
      cases he
      exact hv
    subst hscheme
    rw [read_web hs hw] at h
    obtain ⟨v, hv, he⟩ := map_eq_ok.mp h
    exact ⟨rest, v, rfl, hv, he.symm⟩

/-! ### Putting text behind -/

theorem cutMarked_append_left (h : mark ∈ cs) : cutMarked mark (cs ++ ds) =
    ((cutMarked mark cs).1, (cutMarked mark cs).2.map (· ++ ds)) := by
  obtain ⟨before, after, rfl, hn⟩ := List.eq_append_cons_of_mem h
  rw [cutMarked, cutMarked, List.append_assoc, List.cons_append, Text.cutAt_append hn,
    Text.cutAt_append hn]
  rfl

theorem cutMarked_append_right (h : mark ∉ cs) : cutMarked mark (cs ++ ds) =
    (cs ++ (cutMarked mark ds).1, (cutMarked mark ds).2) := by
  simp only [cutMarked]
  obtain ⟨hc, hn⟩ | ⟨before, after, hc, rfl, hn⟩ := Text.cutAt_cases mark ds
  · have happ : mark ∉ cs ++ ds := fun hm => (List.mem_append.mp hm).elim h hn
    rw [hc, Text.cutAt_eq_none happ]
  · have happ : mark ∉ cs ++ before := fun hm => (List.mem_append.mp hm).elim h hn
    rw [hc, ← List.append_assoc, Text.cutAt_append happ]

theorem cutMarked_of_not_mem (h : mark ∉ cs) : cutMarked mark cs = (cs, none) := by
  rw [cutMarked, Text.cutAt_eq_none h]

theorem cutMarked_marked (h : mark ∉ cs) (after : Option (List Char)) :
    cutMarked mark (cs ++ marked mark after) = (cs, after) := by
  cases after with
  | none => rw [marked, List.append_nil, cutMarked_of_not_mem h]
  | some after => rw [marked, cutMarked, Text.cutAt_append h]

theorem cutMarked_head {slash : Char} (h : slash ≠ mark) (cs : List Char) :
    ∃ more, (cutMarked mark (slash :: cs)).1 = slash :: more := by
  rw [cutMarked, Text.cutAt, if_neg h]
  cases Text.cutAt mark cs with
  | none => exact ⟨cs, rfl⟩
  | some cut => exact ⟨cut.1, rfl⟩

theorem cutTail_head (cs : List Char) : ∃ more, (cutTail ('/' :: cs)).1 = '/' :: more := by
  obtain ⟨more, hm⟩ := cutMarked_head (by decide : '/' ≠ '#') cs
  simp only [cutTail, hm]
  exact cutMarked_head (by decide) more

theorem not_mem_cutMarked (mark : Char) (cs : List Char) : mark ∉ (cutMarked mark cs).1 := by
  rw [cutMarked]
  obtain ⟨hc, hn⟩ | ⟨before, after, hc, _, hn⟩ := Text.cutAt_cases mark cs
  · rw [hc]
    exact hn
  · rw [hc]
    exact hn

/-- Behind an authority a slash begins the path. -/
theorem cutFront_append (hne : (cutFront cs).1 ≠ []) (ds : List Char) :
    (cutFront (cs ++ '/' :: ds)).1 = (cutFront cs).1 ∧
      ((cutFront cs).2 = [] → (cutFront (cs ++ '/' :: ds)).2 = '/' :: ds) := by
  have hfront : (cs ++ '/' :: ds).dropWhile (isSlash true) =
      cs.dropWhile (isSlash true) ++ '/' :: ds := by
    rw [List.dropWhile_append]
    refine if_neg fun he => hne ?_
    rw [cutFront, List.isEmpty_iff.mp he]
    rfl
  have hslash : isSlash true '/' = true := rfl
  simp only [cutFront, cutPath, hfront]
  generalize cs.dropWhile (isSlash true) = front
  induction front with
  | nil => simp [hslash]
  | cons c front ih =>
    by_cases hc : isSlash true c = true
    · simp [hc]
    · simpa [hc] using ih

/-- The authority of an address stays what it is. -/
theorem cut_append_authority (hne : (Pieces.cut cs).authority ≠ []) (ds : List Char) :
    (Pieces.cut (cs ++ '/' :: ds)).authority = (Pieces.cut cs).authority := by
  simp only [Pieces.cut, cutTail] at hne ⊢
  by_cases hf : '#' ∈ cs
  · rw [cutMarked_append_left hf]
  · rw [cutMarked_append_right hf, cutMarked_of_not_mem hf] at *
    obtain ⟨more, hm⟩ := cutMarked_head (by decide : '/' ≠ '#') ds
    rw [hm]
    by_cases hq : '?' ∈ cs
    · rw [cutMarked_append_left hq]
    · obtain ⟨more', hm'⟩ := cutMarked_head (by decide : '/' ≠ '?') more
      rw [cutMarked_append_right hq, hm', cutMarked_of_not_mem hq] at *
      exact (cutFront_append hne more').1

theorem cutTail_of_none (hq : (cutTail cs).2.1 = none) (hf : (cutTail cs).2.2 = none) :
    cutTail cs = (cs, none, none) ∧ '#' ∉ cs ∧ '?' ∉ cs := by
  simp only [cutTail, cutMarked] at hq hf ⊢
  obtain ⟨hc, hn⟩ | ⟨_, _, hc, _⟩ := Text.cutAt_cases '#' cs
  · rw [hc] at hq ⊢
    obtain ⟨hc', hn'⟩ | ⟨_, _, hc', _⟩ := Text.cutAt_cases '?' cs
    · simp only [hc']
      exact ⟨trivial, hn, hn'⟩
    · simp only [hc'] at hq
      cases hq
  · rw [hc] at hf
    cases hf

/-- Where an address ends with its authority, what is put behind it is all of its path, query and
fragment. -/
theorem cut_append_bare (hp : (Pieces.cut cs).path = []) (hq : (Pieces.cut cs).query = none)
    (hf : (Pieces.cut cs).fragment = none) (hne : (Pieces.cut cs).authority ≠ [])
    (ds : List Char) : Pieces.cut (cs ++ '/' :: ds) =
      ⟨(Pieces.cut cs).authority, (cutTail ('/' :: ds)).1, (cutTail ('/' :: ds)).2.1,
        (cutTail ('/' :: ds)).2.2⟩ := by
  obtain ⟨hcs, hhash, hmark⟩ := cutTail_of_none hq hf
  have htail : cutTail (cs ++ '/' :: ds) =
      (cs ++ (cutTail ('/' :: ds)).1, (cutTail ('/' :: ds)).2) := by
    simp only [cutTail]
    rw [cutMarked_append_right hhash, cutMarked_append_right hmark]
  obtain ⟨more, hm⟩ := cutTail_head ds
  simp only [Pieces.cut, hcs] at hp hne ⊢
  simp only [htail, hm]
  obtain ⟨ha, hpath⟩ := cutFront_append hne more
  rw [ha, hpath hp]

end Conformance.Url
