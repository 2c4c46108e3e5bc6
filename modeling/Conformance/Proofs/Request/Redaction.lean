import Conformance.Proofs.Text.Split
import Conformance.Request.Redaction
import Mathlib.Data.List.Forall2
import Mathlib.Data.List.TakeWhile

/-! What is shown of an address, whatever text it is. It is read as a front and the parameters behind
it; keys are masked among the parameters, and nothing else is changed. -/
namespace Conformance.Redaction

open Text (joinWith splitAt)

/-- What stands in front of the first question mark, or everything if there is none. -/
def front (url : String) : List Char := url.toList.takeWhile (· ≠ '?')

/-- The parameters behind the first question mark. Without one there are none. -/
def parameters (url : String) : List (List Char) :=
  match url.toList.dropWhile (· ≠ '?') with
  | [] => []
  | _ :: query => query.splitOn '&'

/-- The parameter named `key` that has this value. -/
def keyParameter (value : List Char) : List Char := 'k' :: 'e' :: 'y' :: '=' :: value

/-- A parameter named `key` whose value is not empty. -/
def CarriesKey (parameter : List Char) : Prop :=
  ∃ value, value ≠ [] ∧ parameter = keyParameter value

/-- What stands in the place of a key. -/
def stars : List Char := ['*', '*', '*']

/-- A parameter, and the one that is shown for it. -/
inductive ShownAs : List Char → List Char → Prop where
  | masked {parameter : List Char} (h : CarriesKey parameter) :
      ShownAs parameter (keyParameter stars)
  | kept {parameter : List Char} (h : ¬ CarriesKey parameter) : ShownAs parameter parameter

/-- Of an address everything is shown but the keys among its parameters. -/
structure Redacted (url shown : String) : Prop where
  front_eq : front shown = front url
  oneByOne : List.Forall₂ ShownAs (parameters url) (parameters shown)
  hidden : ∀ value, value ≠ [] → keyParameter value ∈ parameters shown → value = stars
  untouched : (∀ parameter ∈ parameters url, ¬ CarriesKey parameter) → shown = url

/-- Two addresses that differ in their keys and in nothing else. -/
structure SameButKeys (url other : String) : Prop where
  front_eq : front url = front other
  oneByOne : List.Forall₂ (fun p q => p = q ∨ CarriesKey p ∧ CarriesKey q)
    (parameters url) (parameters other)

variable {url other : String} {before query parameter p q : List Char}

/-! ### Front and parameters -/

theorem parts_of_query (he : url.toList = before ++ '?' :: query) (hb : '?' ∉ before) :
    front url = before ∧ parameters url = query.splitOn '&' := by
  have hall : ∀ c ∈ before, decide (c ≠ '?') = true := by
    intro c hc
    exact decide_eq_true fun h => hb (h ▸ hc)
  unfold front parameters
  rw [he, List.takeWhile_append_of_pos hall, List.dropWhile_append_of_pos hall]
  simp

theorem parts_of_bare (h : '?' ∉ url.toList) : front url = url.toList ∧ parameters url = [] := by
  have hall : ∀ c ∈ url.toList, decide (c ≠ '?') = true := by
    intro c hc
    exact decide_eq_true fun he => h (he ▸ hc)
  unfold front parameters
  rw [List.takeWhile_eq_self_iff.mpr hall, List.dropWhile_eq_nil_iff.mpr hall]
  exact ⟨rfl, rfl⟩

/-- An address is made of its front and its parameters. A query has one parameter at least, so there
is a question mark where there are parameters. -/
theorem toList_eq (url : String) : url.toList =
    front url ++ if parameters url = [] then [] else '?' :: ['&'].intercalate (parameters url) := by
  rcases Text.cutAt_cases '?' url.toList with ⟨_, hn⟩ | ⟨before, query, _, he, hb⟩
  · obtain ⟨hf, hp⟩ := parts_of_bare hn
    rw [hf, hp, if_pos rfl, List.append_nil]
  · obtain ⟨hf, hp⟩ := parts_of_query he hb
    rw [hf, hp, if_neg (List.splitOn_ne_nil _ _), List.intercalate_splitOn, he]

theorem eq_of_parts (hf : front url = front other) (hp : parameters url = parameters other) :
    url = other := by
  rw [← String.toList_inj, toList_eq url, toList_eq other, hf, hp]

/-! ### One parameter -/

theorem maskParameter_key {value : List Char} (hv : value ≠ []) :
    maskParameter (keyName ++ '=' :: value) = masked := by
  rw [maskParameter, Text.cutAt_append (by decide)]
  exact if_pos ⟨rfl, hv⟩

theorem maskParameter_of_carriesKey (h : CarriesKey parameter) :
    maskParameter parameter = keyParameter stars := by
  obtain ⟨value, hv, rfl⟩ := h
  exact maskParameter_key hv

theorem maskParameter_of_not_carriesKey (h : ¬ CarriesKey parameter) :
    maskParameter parameter = parameter := by
  unfold maskParameter
  split
  · rename_i name value hcut
    split
    · rename_i hkey
      obtain ⟨rfl, hv⟩ := hkey
      obtain ⟨rfl, _⟩ := Text.cutAt_eq_some hcut
      exact absurd ⟨value, hv, rfl⟩ h
    · rfl
  · rfl

theorem carriesKey_stars : CarriesKey (keyParameter stars) := ⟨stars, by decide, rfl⟩

theorem shownAs_maskParameter (parameter : List Char) :
    ShownAs parameter (maskParameter parameter) := by
  by_cases h : CarriesKey parameter
  · rw [maskParameter_of_carriesKey h]
    exact .masked h
  · rw [maskParameter_of_not_carriesKey h]
    exact .kept h

theorem not_mem_maskParameter (h : '&' ∉ parameter) : '&' ∉ maskParameter parameter := by
  by_cases hkey : CarriesKey parameter
  · rw [maskParameter_of_carriesKey hkey]
    decide
  · rwa [maskParameter_of_not_carriesKey hkey]

/-- A masked parameter carries a key again, and is masked to itself. -/
theorem maskParameter_idem (parameter : List Char) :
    maskParameter (maskParameter parameter) = maskParameter parameter := by
  by_cases h : CarriesKey parameter
  · rw [maskParameter_of_carriesKey h, maskParameter_of_carriesKey carriesKey_stars]
  · rw [maskParameter_of_not_carriesKey h, maskParameter_of_not_carriesKey h]

theorem maskParameter_eq_iff :
    maskParameter p = maskParameter q ↔ p = q ∨ CarriesKey p ∧ CarriesKey q := by
  constructor
  · intro h
    by_cases hp : CarriesKey p <;> by_cases hq : CarriesKey q
    · exact Or.inr ⟨hp, hq⟩
    -- what looks like a masked parameter carries the stars as its key
    · rw [maskParameter_of_carriesKey hp, maskParameter_of_not_carriesKey hq] at h
      exact absurd (h ▸ carriesKey_stars) hq
    · rw [maskParameter_of_not_carriesKey hp, maskParameter_of_carriesKey hq] at h
      exact absurd (h ▸ carriesKey_stars) hp
    · rw [maskParameter_of_not_carriesKey hp, maskParameter_of_not_carriesKey hq] at h
      exact Or.inl h
  · rintro (rfl | ⟨hp, hq⟩)
    · rfl
    · rw [maskParameter_of_carriesKey hp, maskParameter_of_carriesKey hq]

/-! ### The whole address -/

theorem mask_bare (h : '?' ∉ url.toList) : mask url = url := by
  rw [mask, maskChars, Text.cutAt_eq_none h, String.ofList_toList]

theorem toList_mask (he : url.toList = before ++ '?' :: query) (hb : '?' ∉ before) :
    (mask url).toList =
      before ++ '?' :: joinWith '&' ((splitAt '&' query).map maskParameter) := by
  rw [mask, maskChars, he, Text.cutAt_append hb, String.toList_ofList]

theorem front_mask (url : String) : front (mask url) = front url := by
  rcases Text.cutAt_cases '?' url.toList with ⟨_, hn⟩ | ⟨before, query, _, he, hb⟩
  · rw [mask_bare hn]
  · rw [(parts_of_query (toList_mask he hb) hb).1, (parts_of_query he hb).1]

/-- The parameters that are shown are those of the address, masked one by one: masking puts no
ampersand into a parameter, so the joined text is cut where it was joined. -/
theorem parameters_mask (url : String) :
    parameters (mask url) = (parameters url).map maskParameter := by
  rcases Text.cutAt_cases '?' url.toList with ⟨_, hn⟩ | ⟨before, query, _, he, hb⟩
  · rw [mask_bare hn, (parts_of_bare hn).2]
    rfl
  · have hne : (splitAt '&' query).map maskParameter ≠ [] := by
      simpa using Text.splitAt_ne_nil '&' query
    have hparts : ∀ part ∈ (splitAt '&' query).map maskParameter, '&' ∉ part := by
      intro part hp
      obtain ⟨parameter, hm, rfl⟩ := List.mem_map.mp hp
      exact not_mem_maskParameter (Text.mem_splitAt hm).1
    rw [(parts_of_query (toList_mask he hb) hb).2, (parts_of_query he hb).2,
      ← Text.splitAt_eq_splitOn, ← Text.splitAt_eq_splitOn, Text.splitAt_joinWith hne hparts]

theorem redacted_mask (url : String) : Redacted url (mask url) where
  front_eq := front_mask url
  oneByOne := by
    rw [parameters_mask, List.forall₂_map_right_iff, List.forall₂_same]
    exact fun parameter _ => shownAs_maskParameter parameter
  hidden value hv hm := by
    rw [parameters_mask] at hm
    obtain ⟨parameter, _, hp⟩ := List.mem_map.mp hm
    have hkey := maskParameter_of_carriesKey ⟨value, hv, rfl⟩
    rw [← hp, maskParameter_idem, hp] at hkey
    simpa [keyParameter] using hkey
  untouched h := by
    have hkept : ∀ parameter ∈ parameters url, maskParameter parameter = parameter :=
      fun parameter hp => maskParameter_of_not_carriesKey (h parameter hp)
    refine eq_of_parts (front_mask url) ?_
    rw [parameters_mask]
    exact (List.map_congr_left hkept).trans (List.map_id' _)

theorem parameters_mask_eq_iff : parameters (mask url) = parameters (mask other) ↔
    List.Forall₂ (fun p q => p = q ∨ CarriesKey p ∧ CarriesKey q)
      (parameters url) (parameters other) := by
  rw [parameters_mask, parameters_mask, ← List.forall₂_eq_eq_eq, List.forall₂_map_left_iff,
    List.forall₂_map_right_iff]
  simp only [maskParameter_eq_iff]

theorem mask_eq_iff : mask url = mask other ↔ SameButKeys url other := by
  constructor
  · intro h
    refine ⟨?_, parameters_mask_eq_iff.mp (congrArg parameters h)⟩
    rw [← front_mask url, h, front_mask]
  · rintro ⟨hf, hp⟩
    refine eq_of_parts ?_ (parameters_mask_eq_iff.mpr hp)
    rw [front_mask, front_mask, hf]

theorem mask_idem (url : String) : mask (mask url) = mask url := by
  refine eq_of_parts (front_mask _) ?_
  rw [parameters_mask, parameters_mask, List.map_map]
  exact List.map_congr_left fun parameter _ => maskParameter_idem parameter

/-- Masking hides the values of keys and nothing else. Two addresses look the same exactly if they
differ in keys alone, and what was masked is not masked further. -/
theorem mask_exact (url : String) :
    Redacted url (mask url) ∧
      (∀ other, mask url = mask other ↔ SameButKeys url other) ∧
      mask (mask url) = mask url :=
  ⟨redacted_mask url, fun _ => mask_eq_iff, mask_idem url⟩

example : mask "h?x?y&key=a=b?&key=&keys=1&key" = "h?x?y&key=***&key=&keys=1&key" := by decide

end Conformance.Redaction
