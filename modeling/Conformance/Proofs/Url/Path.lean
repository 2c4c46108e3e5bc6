import Conformance.Proofs.Text.Split
import Conformance.Proofs.Url.Percent
import Conformance.Url.Reader

/-! Paths of web addresses. A path that was read has no dot segments left and nothing to encode, and
is read again as it is. -/
namespace Conformance.Url

open Text (splitAt joinWith)

variable {c : Char} {cs rest segment name : List Char} {names segments : List (List Char)}
  {isRoot : List (List Char) → Bool}

theorem isSlash_eq_false : isSlash true c = false ↔ c ≠ '/' ∧ c ≠ '\\' := by
  simp [isSlash]

/-! ### Dots -/

theorem cutDot_eq_some : cutDot cs = some rest ↔
    cs = '.' :: rest ∨ cs = '%' :: '2' :: 'e' :: rest ∨ cs = '%' :: '2' :: 'E' :: rest := by
  constructor
  · intro h
    unfold cutDot at h
    split at h
    · cases h
      exact Or.inl rfl
    · cases h
      exact Or.inr (Or.inl rfl)
    · cases h
      exact Or.inr (Or.inr rfl)
    · cases h
  · rintro (rfl | rfl | rfl) <;> rfl

/-- The first byte of another character is not that of a dot. -/
theorem not_dot_of_escaped {b : UInt8} {last : Char} {more after : List Char}
    (hc : keptInPath c = false) (hb : b ∈ utf8 [c]) (hl : last = 'e' ∨ last = 'E')
    (h : percentByte b ++ more = '%' :: '2' :: last :: after) : False := by
  have hd : percentDecode (percentByte b ++ more) = b :: percentDecode more :=
    percentDecode_percentByte b more
  have hdot : b = UInt8.ofNat '.'.toNat := by
    rw [h] at hd
    have h2 : Text.hexValue '2' = some 2 := by decide
    have h14 : Text.hexValue last = some 14 := by
      obtain rfl | rfl := hl <;> decide
    rw [percentDecode_escape h2 h14] at hd
    exact (List.cons.inj hd).1.symm
  have hm : '.' ∈ [c] := mem_of_byte_mem_utf8 (by decide) (hdot ▸ hb)
  rw [← List.mem_singleton.mp hm] at hc
  exact absurd hc (by decide)

/-- Encoding neither makes nor hides a dot. -/
theorem cutDot_percentEncode (cs : List Char) :
    cutDot (percentEncode keptInPath cs) = (cutDot cs).map (percentEncode keptInPath) := by
  have hkept : ∀ {c rest}, keptInPath c = true →
      percentEncode keptInPath (c :: rest) = c :: percentEncode keptInPath rest := by
    intro c rest hc
    rw [percentEncode_cons, percentEncode_kept hc, List.singleton_append]
  refine Option.ext fun encoded => ?_
  rw [Option.map_eq_some_iff]
  constructor
  · intro h
    obtain h | h := cutDot_eq_some.mp h
    · obtain ⟨rest, rfl, hr⟩ := percentEncode_cons_literal (by decide) h
      exact ⟨rest, rfl, hr⟩
    · obtain ⟨last, hl, h⟩ : ∃ last, (last = 'e' ∨ last = 'E') ∧
          percentEncode keptInPath cs = '%' :: '2' :: last :: encoded := by
        obtain h | h := h
        · exact ⟨'e', Or.inl rfl, h⟩
        · exact ⟨'E', Or.inr rfl, h⟩
      have hlast : last ≠ '%' := by
        obtain rfl | rfl := hl <;> decide
      obtain ⟨_, rfl, h1⟩ | ⟨_, c, rest, b, _, hc, hb, more, he⟩ := percentEncode_eq_cons h
      · obtain ⟨_, rfl, h2⟩ := percentEncode_cons_literal (by decide) h1
        obtain ⟨rest, rfl, h3⟩ := percentEncode_cons_literal hlast h2
        refine ⟨rest, cutDot_eq_some.mpr (Or.inr ?_), h3⟩
        obtain rfl | rfl := hl
        · exact Or.inl rfl
        · exact Or.inr rfl
      · exact (not_dot_of_escaped hc hb hl he).elim
  · rintro ⟨rest, h, rfl⟩
    obtain rfl | rfl | rfl := cutDot_eq_some.mp h
    · rw [hkept (by decide)]
      rfl
    · rw [hkept (by decide), hkept (by decide), hkept (by decide)]
      rfl
    · rw [hkept (by decide), hkept (by decide), hkept (by decide)]
      rfl

theorem isSingleDot_percentEncode (segment : List Char) :
    isSingleDot (percentEncode keptInPath segment) = isSingleDot segment := by
  rw [Bool.eq_iff_iff, isSingleDot, isSingleDot, beq_iff_eq, beq_iff_eq, cutDot_percentEncode]
  cases cutDot segment with
  | none => simp
  | some rest => simp [percentEncode_eq_nil]

theorem isDoubleDot_percentEncode (segment : List Char) :
    isDoubleDot (percentEncode keptInPath segment) = isDoubleDot segment := by
  have hbind : (cutDot (percentEncode keptInPath segment)).bind cutDot =
      ((cutDot segment).bind cutDot).map (percentEncode keptInPath) := by
    rw [cutDot_percentEncode]
    cases cutDot segment with
    | none => rfl
    | some rest => exact cutDot_percentEncode rest
  rw [Bool.eq_iff_iff, isDoubleDot, isDoubleDot, beq_iff_eq, beq_iff_eq, hbind]
  cases (cutDot segment).bind cutDot with
  | none => simp
  | some rest => simp [percentEncode_eq_nil]

/-! ### Segments -/

/-- A segment of a path that was read. -/
structure IsName (name : List Char) : Prop where
  kept : ∀ c ∈ name, keptInPath c = true
  noSlash : ∀ c ∈ name, isSlash true c = false
  notSingle : isSingleDot name = false
  notDouble : isDoubleDot name = false

theorem isName_nil : IsName [] := ⟨by simp, by simp, rfl, rfl⟩

theorem isName_percentEncode (hs : ∀ c ∈ segment, isSlash true c = false)
    (h1 : isSingleDot segment = false) (h2 : isDoubleDot segment = false) :
    IsName (percentEncode keptInPath segment) where
  kept c hc := keepsEscapes_path.mem hc
  noSlash c hc := by
    obtain ⟨hm, _⟩ | rfl | hx := mem_percentEncode hc
    · exact hs c hm
    · rfl
    · exact ascii_forall (P := fun c => (Text.hexValue c).isSome → isSlash true c = false)
        (by decide +kernel) (hexValue_ascii hx) hx
  notSingle := by rw [isSingleDot_percentEncode, h1]
  notDouble := by rw [isDoubleDot_percentEncode, h2]

/-- A segment puts its name behind those before it, unless it is a dot segment. -/
theorem resolve_cons_name (h1 : isSingleDot segment = false) (h2 : isDoubleDot segment = false)
    (path : List (List Char)) : resolve isRoot path (segment :: segments) =
      resolve isRoot (path ++ [percentEncode keptInPath segment]) segments := by
  rw [resolve]
  simp only [h1, h2, Bool.or_self, Bool.and_false, Bool.false_eq_true, if_false]

theorem resolve_names (h : ∀ name ∈ names, IsName name) (path : List (List Char)) :
    resolve isRoot path names = path ++ names := by
  induction names generalizing path with
  | nil => simp [resolve]
  | cons name names ih =>
    have hn : IsName name := h name List.mem_cons_self
    rw [resolve_cons_name hn.notSingle hn.notDouble, percentEncode_eq_self hn.kept,
      ih fun n hm => h n (List.mem_cons_of_mem name hm), List.append_assoc, List.singleton_append]

/-- A digit at the end keeps a segment from being dots. -/
theorem isDot_concat_digit {d : Char} (hd : d.isDigit = true) (front : List Char) :
    isSingleDot (front ++ [d]) = false ∧ isDoubleDot (front ++ [d]) = false := by
  -- dots end in a dot or in the last letter of an escape
  have hcut : ∀ {cs rest : List Char}, cutDot cs = some rest → cs.getLast? = some d →
      rest.getLast? = some d := by
    intro cs rest h hl
    cases rest with
    | nil =>
      obtain rfl | rfl | rfl := cutDot_eq_some.mp h
      all_goals
        rw [← Option.some.inj hl] at hd
        exact absurd hd (by decide)
    | cons c more =>
      obtain rfl | rfl | rfl := cutDot_eq_some.mp h
      all_goals simpa using hl
  have hlast : (front ++ [d]).getLast? = some d := List.getLast?_concat
  constructor
  · refine beq_eq_false_iff_ne.mpr fun h => ?_
    cases hcut h hlast
  · refine beq_eq_false_iff_ne.mpr fun h => ?_
    obtain ⟨rest, hr, h⟩ := Option.bind_eq_some_iff.mp h
    cases hcut h (hcut hr hlast)

theorem resolve_concat (h1 : isSingleDot segment = false) (h2 : isDoubleDot segment = false)
    (isRoot : List (List Char) → Bool) (path segments : List (List Char)) : ∃ before, resolve isRoot path (segments ++ [segment]) =
      before ++ [percentEncode keptInPath segment] := by
  induction segments generalizing path with
  | nil => exact ⟨path, by rw [List.nil_append, resolve_cons_name h1 h2, resolve]⟩
  | cons first segments ih =>
    rw [List.cons_append, resolve]
    exact ih _

/-- What a segment makes of the path before it. -/
def place (isRoot : List (List Char) → Bool) (path : List (List Char)) (segment : List Char) :
    List (List Char) :=
  if isDoubleDot segment then shorten isRoot path
  else if isSingleDot segment then path
  else path ++ [percentEncode keptInPath segment]

theorem place_isName {path : List (List Char)} (hs : ∀ c ∈ segment, isSlash true c = false)
    (hp : ∀ name ∈ path, IsName name) : ∀ name ∈ place isRoot path segment, IsName name := by
  intro name hm
  rw [place] at hm
  split at hm
  · rw [shorten] at hm
    split at hm
    · exact hp name hm
    · exact hp name (List.dropLast_subset path hm)
  · rename_i h2
    split at hm
    · exact hp name hm
    · rename_i h1
      obtain hm | hm := List.mem_append.mp hm
      · exact hp name hm
      · rw [List.mem_singleton.mp hm]
        exact isName_percentEncode hs (Bool.eq_false_iff.mpr h1) (Bool.eq_false_iff.mpr h2)

/-- What is left of a path has no dot segments, and is not empty. -/
theorem resolve_isName (hs : ∀ segment ∈ segments, ∀ c ∈ segment, isSlash true c = false)
    (isRoot : List (List Char) → Bool) {path : List (List Char)} (hp : ∀ name ∈ path, IsName name) :
    (∀ name ∈ resolve isRoot path segments, IsName name) ∧
      (segments ≠ [] → resolve isRoot path segments ≠ []) := by
  induction segments generalizing path with
  | nil => exact ⟨hp, fun h => absurd rfl h⟩
  | cons segment rest ih =>
    have hrest := fun s hm => hs s (List.mem_cons_of_mem segment hm)
    have hplace : ∀ name ∈ place isRoot path segment, IsName name :=
      place_isName (hs segment List.mem_cons_self) hp
    have hclosed : resolve isRoot path (segment :: rest) = resolve isRoot
        (if rest.isEmpty && (isDoubleDot segment || isSingleDot segment) then
          place isRoot path segment ++ [[]] else place isRoot path segment) rest := rfl
    rw [hclosed]
    split
    · have happ : ∀ name ∈ place isRoot path segment ++ [[]], IsName name := by
        intro name hm
        obtain hm | hm := List.mem_append.mp hm
        · exact hplace name hm
        · exact List.mem_singleton.mp hm ▸ isName_nil
      obtain ⟨hall, hne⟩ := ih hrest happ
      refine ⟨hall, fun _ => ?_⟩
      cases rest with
      | nil => exact List.append_ne_nil_of_right_ne_nil _ (List.cons_ne_nil _ _)
      | cons s more => exact hne (List.cons_ne_nil _ _)
    · rename_i hdots
      obtain ⟨hall, hne⟩ := ih hrest hplace
      refine ⟨hall, fun _ => ?_⟩
      cases rest with
      | nil =>
        rw [List.isEmpty_nil, Bool.true_and, Bool.or_eq_true, not_or] at hdots
        rw [resolve, place, if_neg hdots.1, if_neg hdots.2]
        exact List.append_ne_nil_of_right_ne_nil _ (List.cons_ne_nil _ _)
      | cons s more => exact hne (List.cons_ne_nil _ _)

/-! ### Paths -/

theorem cutSegments_noSlash (cs : List Char) :
    ∀ segment ∈ cutSegments true cs, ∀ c ∈ segment, isSlash true c = false := by
  intro segment hs c hc
  obtain ⟨hno, hmem⟩ := Text.mem_splitAt hs
  obtain ⟨d, _, hd⟩ := List.mem_map.mp (hmem c hc)
  split at hd
  · rw [← hd] at hc
    exact absurd hc hno
  · rename_i hslash
    rw [← hd]
    exact Bool.eq_false_iff.mpr hslash

theorem readSegments_isName (cs : List Char) :
    (∀ name ∈ readSegments true cs, IsName name) ∧ readSegments true cs ≠ [] := by
  obtain ⟨hall, hne⟩ := resolve_isName (cutSegments_noSlash cs) (fun _ => false)
    (List.forall_mem_nil IsName)
  exact ⟨hall, hne (Text.splitAt_ne_nil _ _)⟩

theorem isSlash_of_isDigit {d : Char} (hd : d.isDigit = true) : isSlash true d = false := by
  refine isSlash_eq_false.mpr ⟨?_, ?_⟩ <;> (rintro rfl; exact absurd hd (by decide))

/-- A path that ends in a digit is not empty. -/
theorem readSegments_concat_digit {d : Char} (hd : d.isDigit = true) (front : List Char) :
    readSegments true (front ++ [d]) ≠ [[]] := by
  have hslash := isSlash_of_isDigit hd
  obtain ⟨segments, last, hs⟩ : ∃ segments last,
      cutSegments true (front ++ [d]) = segments ++ [last ++ [d]] := by
    have hne : d ≠ '/' := by
      rintro rfl
      cases hslash
    obtain ⟨segments, last, _, hs⟩ := Text.splitAt_concat hne
      (front.map fun c => if isSlash true c then '/' else c)
    refine ⟨segments, last, ?_⟩
    rw [cutSegments, List.map_append, List.map_singleton, hslash]
    exact hs
  obtain ⟨h1, h2⟩ := isDot_concat_digit hd last
  obtain ⟨before, hb⟩ := resolve_concat h1 h2 (fun _ => false) [] segments
  rw [readSegments, hs, hb]
  intro he
  change before ++ [percentEncode keptInPath (last ++ [d])] = [] ++ [[]] at he
  obtain ⟨_, hn⟩ := List.append_inj' he rfl
  have := percentEncode_eq_nil.mp (List.cons.inj hn).1
  simp at this

/-- The path of a web address. -/
theorem readPath_spec (cs : List Char) : ∃ names, readPath true cs = .segments names ∧
    names ≠ [] ∧ ∀ name ∈ names, IsName name := by
  cases cs with
  | nil => exact ⟨[[]], rfl, by simp, fun name hm => List.mem_singleton.mp hm ▸ isName_nil⟩
  | cons c rest =>
    obtain ⟨hall, hne⟩ := readSegments_isName rest
    exact ⟨_, rfl, hne, hall⟩

theorem cutSegments_joinWith (hne : segments ≠ [])
    (h : ∀ segment ∈ segments, ∀ c ∈ segment, isSlash true c = false) :
    cutSegments true (joinWith '/' segments) = segments := by
  have hmap : (joinWith '/' segments).map (fun c => if isSlash true c then '/' else c) =
      joinWith '/' segments := by
    refine (List.map_congr_left fun c hc => ?_).trans (List.map_id _)
    obtain rfl | ⟨segment, hs, hm⟩ := Text.mem_joinWith hc
    · rfl
    · exact if_neg (Bool.eq_false_iff.mp (h segment hs c hm))
  rw [cutSegments, hmap]
  refine Text.splitAt_joinWith hne fun segment hs hm => ?_
  exact absurd (h segment hs '/' hm) (by decide)

theorem pathText_eq (hne : names ≠ []) :
    (Path.segments names).text = '/' :: joinWith '/' names := by
  induction names with
  | nil => exact absurd rfl hne
  | cons name names ih =>
    have hcons : (Path.segments (name :: names)).text =
        '/' :: (name ++ (Path.segments names).text) := rfl
    cases names with
    | nil => rw [hcons, Path.text, List.flatMap_nil, List.append_nil, joinWith]
    | cons next rest => rw [hcons, ih (List.cons_ne_nil next rest)]; rfl

theorem mem_text_segments {c : Char} (h : c ∈ (Path.segments names).text) :
    c = '/' ∨ ∃ name ∈ names, c ∈ name := by
  obtain ⟨name, hn, hc⟩ := List.mem_flatMap.mp h
  exact (List.mem_cons.mp hc).imp_right fun hc => ⟨name, hn, hc⟩

/-- A path is read again as it is. -/
theorem readPath_text (hne : names ≠ []) (h : ∀ name ∈ names, IsName name) :
    readPath true (Path.segments names).text = .segments names := by
  rw [pathText_eq hne, readPath, readSegments,
    cutSegments_joinWith hne fun name hm => (h name hm).noSlash, resolve_names h, List.nil_append]

end Conformance.Url
