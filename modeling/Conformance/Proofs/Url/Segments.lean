import Conformance.Proofs.Url.Extend

/-! Names put into a path, each as a segment of its own. A path does not get longer by being read,
so that one in which all of the names are found has lost nothing of them. -/
namespace Conformance.Url

variable {cs ds name segment : List Char} {names path segments : List (List Char)} {u : Url}
  {isRoot : List (List Char) → Bool}

/-! ### Plain names -/

/-- What does not stay within a segment. -/
def segmentDelimiters : List Char := ['/', '\\', '?', '#', '\t', '\n', '\r']

/-- Names that make a segment and stay what they are. -/
structure IsPlainName (name : List Char) : Prop where
  delimiters : ∀ d ∈ segmentDelimiters, d ∉ name
  notDots : name ≠ ['.'] ∧ name ≠ ['.', '.']
  noEscape : hasEscape name = false

instance : DecidablePred IsPlainName := fun name =>
  decidable_of_iff (segmentDelimiters.all (fun d => decide (d ∉ name)) = true ∧
      (name ≠ ['.'] ∧ name ≠ ['.', '.']) ∧ hasEscape name = false)
    ⟨fun ⟨hd, hdots, he⟩ => ⟨List.all_iff_forall_prop.mp hd, hdots, he⟩,
      fun h => ⟨List.all_iff_forall_prop.mpr h.delimiters, h.notDots, h.noEscape⟩⟩

/-- Segments that are left in a path and are not decoded to anything else. -/
structure Stays (segment : List Char) : Prop where
  notSingle : isSingleDot segment = false
  notDouble : isDoubleDot segment = false
  noEscape : hasEscape segment = false

theorem IsPlainName.stays (h : IsPlainName name) : Stays name where
  notSingle := by
    refine beq_eq_false_iff_ne.mpr fun hd => ?_
    have he := h.noEscape
    obtain rfl | rfl | rfl := cutDot_eq_some.mp hd
    · exact h.notDots.1 rfl
    · exact absurd he (by decide)
    · exact absurd he (by decide)
  notDouble := by
    refine beq_eq_false_iff_ne.mpr fun hd => ?_
    have he := h.noEscape
    obtain ⟨rest, hfirst, hrest⟩ := Option.bind_eq_some_iff.mp hd
    obtain rfl | rfl | rfl := cutDot_eq_some.mp hrest
    all_goals obtain rfl | rfl | rfl := cutDot_eq_some.mp hfirst
    · exact h.notDots.2 rfl
    all_goals exact absurd he (by decide)
  noEscape := h.noEscape

theorem Stays.isPlainName (h : Stays name) (hd : ∀ d ∈ segmentDelimiters, d ∉ name) :
    IsPlainName name where
  delimiters := hd
  notDots := by
    constructor
    · rintro rfl
      exact absurd h.notSingle (by decide)
    · rintro rfl
      exact absurd h.notDouble (by decide)
  noEscape := h.noEscape

/-! ### What reading takes away -/

/-- The bytes that the segments of a path stand for, with a slash before each. -/
def weight (names : List (List Char)) : Nat :=
  (names.flatMap fun name => UInt8.ofNat '/'.toNat :: percentDecode name).length

/-- The bytes in which segments are written. -/
def size (names : List (List Char)) : Nat := (utf8 (Path.segments names).text).length

theorem weight_cons (name : List Char) (names : List (List Char)) :
    weight (name :: names) = 1 + (percentDecode name).length + weight names := by
  rw [weight, List.flatMap_cons, List.length_append, List.length_cons, Nat.add_comm 1]
  rfl

theorem weight_append (path names : List (List Char)) :
    weight (path ++ names) = weight path + weight names := by
  simp [weight]

theorem size_cons (name : List Char) (names : List (List Char)) :
    size (name :: names) = 1 + (utf8 name).length + size names := by
  have hslash : (utf8 ['/']).length = 1 := rfl
  change (utf8 ('/' :: (name ++ (Path.segments names).text))).length = _
  rw [length_utf8_cons, utf8_append, List.length_append, hslash, size, Nat.add_assoc]

theorem weight_place_dot (h : isSingleDot segment = true ∨ isDoubleDot segment = true)
    (path : List (List Char)) : weight (place isRoot path segment) ≤ weight path := by
  have hdrop : weight path.dropLast ≤ weight path := by
    obtain rfl | ⟨front, last, rfl⟩ := List.eq_nil_or_concat path
    · exact Nat.le_refl _
    · rw [List.concat_eq_append, List.dropLast_concat, weight_append]
      omega
  rw [place]
  split
  · rw [shorten]
    split
    · exact Nat.le_refl _
    · exact hdrop
  · rename_i h2
    exact Nat.le_of_eq (congrArg weight (if_pos (h.resolve_right h2)))

/-- The path that is left of segments weighs no more than they did, and less unless all of them
stay. -/
theorem weight_resolve (isRoot : List (List Char) → Bool) (segments path : List (List Char)) :
    weight (resolve isRoot path segments) ≤ weight path + size segments ∧
      (weight path + size segments ≤ weight (resolve isRoot path segments) →
        ∀ segment ∈ segments, Stays segment) := by
  induction segments generalizing path with
  | nil => exact ⟨Nat.le_refl _, fun _ => List.forall_mem_nil _⟩
  | cons segment rest ih =>
    rw [size_cons]
    by_cases hdot : isSingleDot segment = true ∨ isDoubleDot segment = true
    · -- a dot segment is at least one byte and leaves at most an empty segment
      have hpos : 0 < (utf8 segment).length := by
        refine List.length_pos_iff.mpr (utf8_ne_nil ?_)
        rintro rfl
        exact absurd hdot (by decide)
      have hplace : weight (place isRoot path segment) ≤ weight path := weight_place_dot hdot path
      have hempty : weight [[]] = 1 := rfl
      have hclosed : ∃ closed, resolve isRoot path (segment :: rest) = resolve isRoot closed rest ∧
          weight closed ≤ weight path + 1 := by
        refine ⟨if rest.isEmpty && (isDoubleDot segment || isSingleDot segment) then
          place isRoot path segment ++ [[]] else place isRoot path segment, rfl, ?_⟩
        split
        · rw [weight_append, hempty]
          omega
        · omega
      obtain ⟨closed, hr, hw⟩ := hclosed
      have hih := (ih closed).1
      rw [hr]
      exact ⟨by omega, fun hle => by omega⟩
    · rw [not_or, Bool.not_eq_true, Bool.not_eq_true] at hdot
      have hstep : weight (path ++ [percentEncode keptInPath segment]) =
          weight path + (1 + (percentDecode segment).length) := by
        rw [weight_append, weight_cons, percentDecode_percentEncode keepsEscapes_path]
        rfl
      have hdecode := length_percentDecode_le segment
      obtain ⟨hih, hstay⟩ := ih (path ++ [percentEncode keptInPath segment])
      rw [resolve_cons_name hdot.1 hdot.2]
      rw [hstep] at hih hstay
      refine ⟨by omega, fun hle => List.forall_mem_cons.mpr ⟨?_, hstay (by omega)⟩⟩
      exact ⟨hdot.1, hdot.2, hasEscape_of_length (by omega)⟩

theorem resolve_stays (h : ∀ segment ∈ segments, Stays segment) (path : List (List Char)) :
    resolve isRoot path segments = path ++ segments.map (percentEncode keptInPath) := by
  induction segments generalizing path with
  | nil => simp [resolve]
  | cons segment rest ih =>
    have hs : Stays segment := h segment List.mem_cons_self
    rw [resolve_cons_name hs.notSingle hs.notDouble, ih fun s hm => h s (List.mem_cons_of_mem _ hm)]
    simp

theorem size_cutSegments (cs : List Char) :
    size (cutSegments true cs) = 1 + (utf8 cs).length := by
  have hslash : ∀ c, (utf8 [if isSlash true c then '/' else c]).length = (utf8 [c]).length := by
    intro c
    split
    · rename_i hs
      have hc : c = '/' ∨ c = '\\' := by simpa [isSlash] using hs
      obtain rfl | rfl := hc <;> rfl
    · rfl
  have hmap : (utf8 (cs.map fun c => if isSlash true c then '/' else c)).length =
      (utf8 cs).length := by
    induction cs with
    | nil => rfl
    | cons c cs ih => rw [List.map_cons, length_utf8_cons, length_utf8_cons c, hslash, ih]
  have hone : (utf8 ['/']).length = 1 := rfl
  rw [size, cutSegments, pathText_eq (Text.splitAt_ne_nil _ _), Text.joinWith_splitAt,
    length_utf8_cons, hone, hmap]

/-- Of a text of which all bytes are left nothing was taken away. -/
theorem eq_of_sublist (h : cs.Sublist ds) :
    (utf8 cs).length ≤ (utf8 ds).length ∧ ((utf8 ds).length ≤ (utf8 cs).length → cs = ds) := by
  induction h with
  | slnil => exact ⟨Nat.le_refl _, fun _ => rfl⟩
  | @cons _ rest d h ih =>
    have hd := length_utf8_pos d
    rw [length_utf8_cons d rest]
    exact ⟨by omega, fun hle => by omega⟩
  | @cons_cons front rest d h ih =>
    rw [length_utf8_cons d front, length_utf8_cons d rest]
    exact ⟨by omega, fun hle => congrArg (d :: ·) (ih.2 (by omega))⟩

theorem cutTail_spec (cs : List Char) : (cutTail cs).1.Sublist cs ∧ '?' ∉ (cutTail cs).1 ∧
    '#' ∉ (cutTail cs).1 := by
  have hfirst : ∀ mark (ds : List Char), (cutMarked mark ds).1.Sublist ds := by
    intro mark ds
    rw [cutMarked]
    obtain ⟨hc, _⟩ | ⟨before, after, hc, rfl, _⟩ := Text.cutAt_cases mark ds
    · rw [hc]
    · rw [hc]
      exact List.sublist_append_left _ _
  have hquery := hfirst '?' (cutMarked '#' cs).1
  exact ⟨hquery.trans (hfirst '#' cs), not_mem_cutMarked _ _,
    fun hm => not_mem_cutMarked '#' cs (hquery.subset hm)⟩

/-! ### Names in a path -/

/-- Each segment is decoded to its name. -/
def Decodes (names segments : List (List Char)) : Prop :=
  List.Forall₂ (fun name segment => percentDecode segment = utf8 name) names segments

/-- Plain names put into a path behind an address are its segments, and there is nothing else. -/
theorem withTail_plain (hne : names ≠ []) (h : ∀ name ∈ names, IsPlainName name) :
    u.withTail ((Path.segments names).text.filter (!isLineSpace ·)) =
      { u with
        path := .segments (names.map (percentEncode keptInPath))
        query := none
        fragment := none } := by
  have hno : ∀ d ∈ segmentDelimiters, d ≠ '/' → d ∉ (Path.segments names).text := by
    intro d hd hs hm
    obtain ⟨name, hname, hm⟩ := (mem_text_segments hm).resolve_left hs
    exact (h name hname).delimiters d hd hm
  have hline : (Path.segments names).text.filter (!isLineSpace ·) = (Path.segments names).text := by
    refine List.filter_eq_self.mpr fun c hc => ?_
    rw [Bool.not_eq_true', isLineSpace_eq_false]
    refine ⟨?_, ?_, ?_⟩ <;> (rintro rfl; exact hno _ (by decide) (by decide) hc)
  have hcut : cutTail (Path.segments names).text = ((Path.segments names).text, none, none) := by
    simp only [cutTail]
    rw [cutMarked_of_not_mem (hno '#' (by decide) (by decide))]
    simp only [cutMarked_of_not_mem (hno '?' (by decide) (by decide))]
  have hslash : ∀ name ∈ names, ∀ c ∈ name, isSlash true c = false := by
    intro name hname c hc
    refine isSlash_eq_false.mpr ⟨?_, ?_⟩ <;>
      (rintro rfl; exact (h name hname).delimiters _ (by decide) hc)
  have hread : readPath true (Path.segments names).text =
      .segments (names.map (percentEncode keptInPath)) := by
    rw [pathText_eq hne, readPath, readSegments, cutSegments_joinWith hne hslash,
      resolve_stays (fun name hname => (h name hname).stays), List.nil_append]
  rw [withTail, hline, hcut]
  simp only [hread, Option.map_none]

theorem weight_eq_size (h : Decodes names segments) : weight segments = size names := by
  induction h with
  | nil => rfl
  | cons hd _ ih => rw [size_cons, weight_cons, ih, hd]

theorem eq_of_decodes (hstay : ∀ segment ∈ segments, Stays segment)
    (h : Decodes names (segments.map (percentEncode keptInPath))) : names = segments := by
  induction segments generalizing names with
  | nil =>
    cases h
    rfl
  | cons segment rest ih =>
    cases h with
    | cons hd h =>
      obtain ⟨hs, hrest⟩ := List.forall_mem_cons.mp hstay
      rw [percentDecode_percentEncode keepsEscapes_path, percentDecode_eq_utf8 hs.noEscape] at hd
      rw [utf8_injective hd, ih hrest h]

/-- If a path has a segment for each name that was put into it, it is all of what was put in. -/
theorem names_of_withTail (hne : names ≠ [])
    (hp : (u.withTail ((Path.segments names).text.filter (!isLineSpace ·))).path =
      .segments segments) (hs : Decodes names segments) :
    ∃ rest, (Path.segments names).text = '/' :: rest ∧
      (cutTail ((Path.segments names).text.filter (!isLineSpace ·))).1 = '/' :: rest ∧
      names = cutSegments true rest ∧ ∀ name ∈ names, Stays name := by
  have hweight := weight_eq_size hs
  obtain ⟨hsub, _, _⟩ := cutTail_spec ((Path.segments names).text.filter (!isLineSpace ·))
  obtain ⟨rest, hrest⟩ : ∃ rest,
      (cutTail ((Path.segments names).text.filter (!isLineSpace ·))).1 = '/' :: rest := by
    rw [pathText_eq hne]
    exact cutTail_head _
  change readPath true (cutTail _).1 = .segments segments at hp
  rw [hrest] at hp hsub
  obtain rfl := Path.segments.inj hp
  -- what was read weighs no more than the text it was read from, and that is part of the names
  obtain ⟨hle, hstay⟩ := weight_resolve (fun _ => false) (cutSegments true rest) []
  obtain ⟨hlen, heq⟩ := eq_of_sublist (hsub.trans List.filter_sublist)
  have hfront : (utf8 ('/' :: rest)).length = size (cutSegments true rest) := by
    rw [size_cutSegments, length_utf8_cons]
    rfl
  have hnil : weight [] = 0 := rfl
  rw [hnil, Nat.zero_add] at hle hstay
  change weight (resolve _ [] (cutSegments true rest)) = _ at hweight
  change _ ≤ size names at hlen
  have hstay := hstay (by omega)
  have htext := heq (by change size names ≤ _; omega)
  rw [readSegments, resolve_stays hstay, List.nil_append] at hs
  have hnames := eq_of_decodes hstay hs
  exact ⟨rest, htext.symm, hrest, hnames, hnames ▸ hstay⟩

/-- If a path has a segment for each name that was put into it, the names are plain. -/
theorem plain_of_withTail (hne : names ≠ [])
    (hp : (u.withTail ((Path.segments names).text.filter (!isLineSpace ·))).path =
      .segments segments) (hs : Decodes names segments) : ∀ name ∈ names, IsPlainName name := by
  obtain ⟨rest, htext, hrest, hcut, hstay⟩ := names_of_withTail hne hp hs
  obtain ⟨hsub, hmark, hhash⟩ := cutTail_spec ((Path.segments names).text.filter (!isLineSpace ·))
  rw [hrest] at hsub hmark hhash
  intro name hname
  refine (hstay name hname).isPlainName fun d hd hm => ?_
  have hin : d ∈ '/' :: rest := by
    rw [← htext]
    exact List.mem_flatMap.mpr ⟨name, hname, List.mem_cons_of_mem _ hm⟩
  have hslash := cutSegments_noSlash rest name (hcut ▸ hname) d hm
  have hline : isLineSpace d = false := by
    simpa using (List.mem_filter.mp (hsub.subset hin)).2
  have hall : ∀ d ∈ segmentDelimiters,
      d = '?' ∨ d = '#' ∨ isSlash true d = true ∨ isLineSpace d = true :=
    List.all_iff_forall_prop.mp (by decide)
  obtain rfl | rfl | h | h := hall d hd
  · exact hmark hin
  · exact hhash hin
  · rw [hslash] at h
    cases h
  · rw [hline] at h
    cases h

end Conformance.Url
