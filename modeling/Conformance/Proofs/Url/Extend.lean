import Conformance.Proofs.Url.Path
import Conformance.Proofs.Url.Pieces
import Mathlib.Data.List.Basic

/-! Addresses with text put behind them. They are read as before, up to their path, query and
fragment; and where they had none of these, the text is all there is in them. -/
namespace Conformance.Url

open Outcome

variable {base s : String} {cs ds scheme rest : List Char} {u : Url}

/-- The last character is one that is not trimmed. -/
def EndsVisibly (s : String) : Prop := ∃ front last, s.toList = front ++ [last] ∧ 0x20 < last.toNat

/-- As a text with a port does. -/
def EndsInDigit (s : String) : Prop := ∃ front d, s.toList = front ++ [d] ∧ d.isDigit = true

/-- What counts of a text behind another one. -/
def unbroken (s : String) : List Char := s.toList.filter (!isLineSpace ·)

theorem visible_of_isDigit {d : Char} (hd : d.isDigit = true) : 0x20 < d.toNat := by
  have h0 : '0'.toNat ≤ d.toNat := by
    simp only [Char.isDigit, Bool.and_eq_true, decide_eq_true_eq] at hd
    exact hd.1
  exact Nat.lt_of_lt_of_le (by decide) h0

theorem significant_append (hb : EndsInDigit base) (hs : EndsVisibly s) :
    significant (base ++ s) = significant base ++ unbroken s := by
  obtain ⟨front, d, hbase, hd⟩ := hb
  obtain ⟨more, last, hs, hl⟩ := hs
  have hd' : decide (d.toNat ≤ 0x20) = false := by simpa using visible_of_isDigit hd
  have hl' : decide (last.toNat ≤ 0x20) = false := by simpa using hl
  have hdrop : (front ++ [d] ++ more).dropWhile (fun c => decide (c.toNat ≤ 0x20)) =
      front.dropWhile (fun c => decide (c.toNat ≤ 0x20)) ++ [d] ++ more := by
    rw [List.append_assoc, List.dropWhile_append]
    split
    · rename_i he
      rw [List.isEmpty_iff.mp he]
      simp [hd']
    · simp
  rw [significant, significant, unbroken, String.toList_append, hbase, hs, ← List.append_assoc,
    trimBy_concat hl', trimBy_concat hd', hdrop, ← List.filter_append]
  simp

/-- The last digit is a significant one. -/
theorem significant_last (hb : EndsInDigit base) :
    ∃ front d, significant base = front ++ [d] ∧ d.isDigit = true := by
  obtain ⟨front, d, hbase, hd⟩ := hb
  have hvisible := visible_of_isDigit hd
  have hd' : decide (d.toNat ≤ 0x20) = false := by simpa using hvisible
  have hline : isLineSpace d = false := isLineSpace_of_visible hvisible
  refine ⟨(front.dropWhile (·.toNat ≤ 0x20)).filter (!isLineSpace ·), d, ?_, hd⟩
  rw [significant, hbase, trimBy_concat hd', List.filter_append, List.filter_cons, hline]
  rfl

theorem cutScheme_spec (h : cutScheme cs = some (scheme, rest)) : ∃ name, cs = name ++ ':' :: rest ∧
    ':' ∉ name ∧ scheme = name.map Char.toLower := by
  simp only [cutScheme, Option.bind_eq_bind, Option.bind_eq_some_iff] at h
  obtain ⟨⟨name, after⟩, hcut, h⟩ := h
  dsimp only at h
  split at h
  · cases h
    obtain ⟨rfl, hn⟩ := Text.cutAt_eq_some hcut
    exact ⟨name, rfl, hn, rfl⟩
  · cases h

theorem cutScheme_append (h : cutScheme cs = some (scheme, rest)) (ds : List Char) :
    cutScheme (cs ++ ds) = some (scheme, rest ++ ds) := by
  simp only [cutScheme, Option.bind_eq_bind, Option.bind_eq_some_iff] at h ⊢
  obtain ⟨⟨name, after⟩, hcut, h⟩ := h
  obtain ⟨rfl, hn⟩ := Text.cutAt_eq_some hcut
  refine ⟨(name, after ++ ds), ?_, ?_⟩
  · rw [List.append_assoc, List.cons_append, Text.cutAt_append hn]
  · dsimp only at h ⊢
    split at h
    · rename_i hok
      cases h
      rw [if_pos hok]
    · cases h

theorem readAuthority_ne_nil {authority : List Char} (hw : Web scheme)
    (h : readAuthority scheme authority = .ok u) : authority ≠ [] := by
  rintro rfl
  have he : readAuthority scheme [] = .error .emptyHost := by
    simp only [readAuthority, hw.isSpecial]
    rfl
  rw [he] at h
  cases h

/-- What is put behind an address, from a slash on, changes no more than path, query and
fragment. -/
theorem read_append (h : read base = .ok u) (hw : Web u.scheme) (hb : EndsInDigit base)
    (hs : EndsVisibly s) (hslash : (unbroken s).head? = some '/') :
    ∃ p : Pieces, read (base ++ s) = .ok (p.complete u) := by
  obtain ⟨rest, v, hcut, hv, hu⟩ := read_web_inv h hw
  obtain ⟨ds, hds⟩ := List.head?_eq_some_iff.mp hslash
  have hcut' : cutScheme (significant (base ++ s)) = some (u.scheme, rest ++ '/' :: ds) := by
    rw [significant_append hb hs, hds]
    exact cutScheme_append hcut _
  refine ⟨Pieces.cut (rest ++ '/' :: ds), ?_⟩
  rw [read_web hcut' hw, cut_append_authority (readAuthority_ne_nil hw hv), hv]
  subst hu
  rfl

/-- An address with nothing behind its authority. -/
def Bare (u : Url) : Prop := u.path = .segments [[]] ∧ u.query = none ∧ u.fragment = none

/-- The address of which path, query and fragment are read from a text. -/
def withTail (u : Url) (cs : List Char) : Url :=
  { u with
    path := readPath true (cutTail cs).1
    query := (cutTail cs).2.1.map (percentEncode keptInSpecialQuery)
    fragment := (cutTail cs).2.2.map (percentEncode keptInFragment) }

/-- An address that ends in a digit has no empty path behind a slash. -/
theorem cut_path_of_bare (hd : ∃ front d, rest = front ++ [d] ∧ d.isDigit = true)
    (hp : readPath true (Pieces.cut rest).path = .segments [[]])
    (hq : (Pieces.cut rest).query = none) (hf : (Pieces.cut rest).fragment = none) :
    (Pieces.cut rest).path = [] := by
  obtain ⟨front, d, hrest, hd⟩ := hd
  obtain ⟨hcut, _⟩ := cutTail_of_none hq hf
  have hpath : (Pieces.cut rest).path =
      (rest.dropWhile (isSlash true)).dropWhile (!isSlash true ·) := by
    simp only [Pieces.cut, hcut, cutFront, cutPath]
  obtain ⟨before, hsuffix⟩ := ((List.dropWhile_suffix (!isSlash true ·)).trans
    (List.dropWhile_suffix (isSlash true) (l := rest)))
  have hhead := List.head?_dropWhile_not (!isSlash true ·) (rest.dropWhile (isSlash true))
  rw [← hpath] at hsuffix hhead
  cases hc : (Pieces.cut rest).path with
  | nil => rfl
  | cons c more =>
    rw [hc] at hp hsuffix hhead
    have hslash : isSlash true c = true := by simpa using hhead
    have hlast : (c :: more).getLast? = some d := by
      have hl : rest.getLast? = some d := by rw [hrest, List.getLast?_concat]
      rwa [← hsuffix, List.getLast?_append_cons] at hl
    obtain rfl | ⟨init, last, rfl⟩ := List.eq_nil_or_concat more
    · obtain rfl : c = d := Option.some.inj hlast
      rw [isSlash_of_isDigit hd] at hslash
      cases hslash
    · rw [List.concat_eq_append] at hlast hp
      rw [← List.cons_append, List.getLast?_concat] at hlast
      rw [Option.some.inj hlast] at hp
      exact absurd (Path.segments.inj hp) (readSegments_concat_digit hd init)

/-- Where an address is bare, all of its path, query and fragment comes from what is put behind
it. -/
theorem read_append_bare (h : read base = .ok u) (hw : Web u.scheme) (hbare : u.Bare)
    (hb : EndsInDigit base) (hs : EndsVisibly s) (hslash : (unbroken s).head? = some '/') :
    read (base ++ s) = .ok (u.withTail (unbroken s)) := by
  obtain ⟨rest, v, hcut, hv, rfl⟩ := read_web_inv h hw
  obtain ⟨hpath, hquery, hfragment⟩ := hbare
  have hq : (Pieces.cut rest).query = none := Option.map_eq_none_iff.mp hquery
  have hf : (Pieces.cut rest).fragment = none := Option.map_eq_none_iff.mp hfragment
  have hdigit : ∃ front d, rest = front ++ [d] ∧ d.isDigit = true := by
    obtain ⟨front, d, hsig, hd⟩ := significant_last hb
    obtain ⟨name, hname, _⟩ := cutScheme_spec hcut
    rw [hname] at hsig
    obtain rfl | ⟨init, last, rfl⟩ := List.eq_nil_or_concat rest
    · have hl := congrArg List.getLast? hsig
      rw [List.getLast?_concat, List.getLast?_concat] at hl
      rw [← Option.some.inj hl] at hd
      exact absurd hd (by decide)
    · have hl := congrArg List.getLast? hsig
      rw [List.concat_eq_append, ← List.cons_append, ← List.append_assoc, List.getLast?_concat,
        List.getLast?_concat] at hl
      exact ⟨init, d, by rw [List.concat_eq_append, Option.some.inj hl], hd⟩
  have hp := cut_path_of_bare hdigit hpath hq hf
  obtain ⟨ds, hds⟩ := List.head?_eq_some_iff.mp hslash
  have hcut' : cutScheme (significant (base ++ s)) =
      some (((Pieces.cut rest).complete v).scheme, rest ++ '/' :: ds) := by
    rw [significant_append hb hs, hds]
    exact cutScheme_append hcut _
  rw [read_web hcut' hw, cut_append_bare hp hq hf (readAuthority_ne_nil hw hv), hv, hds]
  rfl

end Conformance.Url
