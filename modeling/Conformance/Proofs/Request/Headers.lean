import Conformance.Proofs.Pairs
import Conformance.Proofs.Request.Delivery
import Mathlib.Data.List.Perm.Subperm
import Mathlib.Data.List.TakeWhile

/-! The headers of a request: those of the caller, each name once, under the fixed ones. A bad one
is found before anything is sent. -/
namespace Conformance.Transport

open Pairs (assign)

variable {headers kept sent : Headers} {body : Option Body} {name value : String}

/-! ### Setting headers -/

/-- Sets headers one after another. -/
def setAll (headers kept : Headers) : Headers :=
  headers.foldl (fun kept h => setHeader h.1 h.2 kept) kept

theorem nodup_setAll (headers : Headers) (h : (kept.map Prod.fst).Nodup) :
    ((setAll headers kept).map Prod.fst).Nodup := by
  induction headers generalizing kept with
  | nil => exact h
  | cons x headers ih =>
    have hx : ((setHeader x.1 x.2 kept).map Prod.fst).Nodup := by
      rw [setHeader_eq]
      exact Pairs.nodup_assign h
    exact ih hx

theorem mem_names_setAll {n : String} : n ∈ (setAll headers kept).map Prod.fst ↔
    n ∈ headers.map Prod.fst ∨ n ∈ kept.map Prod.fst := by
  induction headers generalizing kept with
  | nil => simp [setAll]
  | cons x headers ih =>
    have hset : setAll (x :: headers) kept = setAll headers (setHeader x.1 x.2 kept) := rfl
    rw [hset, ih, setHeader_eq, Pairs.mem_keys_assign, List.map_cons, List.mem_cons, or_assoc,
      or_left_comm]

/-- The last header of a name is the one that stays. -/
theorem lookup_setAll (headers kept : Headers) (n : String) :
    (setAll headers kept).lookup n = (headers.reverse.lookup n).or (kept.lookup n) := by
  induction headers generalizing kept with
  | nil => rfl
  | cons x headers ih =>
    obtain ⟨k, v⟩ := x
    have hset : setAll ((k, v) :: headers) kept = setAll headers (setHeader k v kept) := rfl
    rw [hset, ih, setHeader_eq, Pairs.lookup_assign, List.reverse_cons, List.lookup_append,
      Pairs.lookup_cons, Option.or_assoc]
    congr 1
    split <;> rfl

/-! ### The caller's headers -/

/-- What the HTTP layer takes as a header. -/
def Accepts (h : String × String) : Prop := isName h.1 = true ∧ isValue h.2 = true

/-- Headers as a map: in the order of the names, each spelling once. -/
def IsMap (headers : Headers) : Prop := headers.Pairwise (·.1 < ·.1)

/-- Of the spellings of a name the greatest one has this value. -/
def HasLast (headers : Headers) (name value : String) : Prop :=
  ∃ spelling, (spelling, value) ∈ headers ∧ lowerName spelling = name ∧
    ∀ h ∈ headers, lowerName h.1 = name → h.1 ≤ spelling

theorem merge_accepted (h : ∀ x ∈ headers, Accepts x) (kept : Headers) :
    merge kept headers = .ok (setAll (lowered headers) kept) := by
  induction headers generalizing kept with
  | nil => rfl
  | cons x rest ih =>
    obtain ⟨hx, hrest⟩ := List.forall_mem_cons.mp h
    rw [merge, hx.1, hx.2, Bool.and_true, if_pos rfl, ih hrest]
    rfl

/-- The first bad header is told of, whatever comes behind it. -/
theorem merge_refused {bad : String × String} {before after : Headers}
    (h : ∀ x ∈ before, Accepts x) (hbad : ¬ Accepts bad) (kept : Headers) :
    merge kept (before ++ bad :: after) = .error bad.1 := by
  induction before generalizing kept with
  | nil =>
    have hcheck : ¬ (isName bad.1 && isValue bad.2) = true := by
      rw [Bool.and_eq_true]
      exact hbad
    rw [List.nil_append, merge, if_neg hcheck]
  | cons x rest ih =>
    obtain ⟨hx, hrest⟩ := List.forall_mem_cons.mp h
    rw [List.cons_append, merge, hx.1, hx.2, Bool.and_true, if_pos rfl]
    exact ih hrest _

namespace IsMap

/-- What comes before a header has a smaller name. -/
theorem lt_of_append {before after : Headers} {h : String × String}
    (hm : IsMap (before ++ h :: after)) : ∀ x ∈ before, x.1 < h.1 := fun x hx =>
  (List.pairwise_append.mp hm).2.2 x hx h List.mem_cons_self

theorem gt_of_append {before after : Headers} {h : String × String}
    (hm : IsMap (before ++ h :: after)) : ∀ x ∈ after, h.1 < x.1 :=
  (List.pairwise_cons.mp (List.pairwise_append.mp hm).2.1).1

end IsMap

/-- Reading from the end finds the greatest spelling first. -/
theorem lookup_lowered (hm : IsMap headers) (name value : String) :
    (lowered headers).reverse.lookup name = some value ↔ HasLast headers name value := by
  rw [List.lookup_eq_some_iff]
  constructor
  · rintro ⟨later, earlier, hsplit, hlater⟩
    have hh : lowered headers = earlier.reverse ++ (name, value) :: later.reverse := by
      rw [← List.reverse_inj, hsplit]
      simp
    obtain ⟨before, rest, rfl, -, hrest⟩ := List.map_eq_append_iff.mp hh
    obtain ⟨⟨spelling, v⟩, after, rfl, hs, hafter⟩ := List.map_eq_cons_iff.mp hrest
    obtain ⟨hname, rfl⟩ := Prod.mk.inj hs
    refine ⟨spelling, by simp, hname, fun h hh hn => ?_⟩
    obtain hb | rfl | ha : h ∈ before ∨ h = (spelling, v) ∨ h ∈ after := by simpa using hh
    · exact Std.le_of_lt (hm.lt_of_append h hb)
    · exact String.le_refl _
    · have hmem : (lowerName h.1, h.2) ∈ later := by
        rw [← List.mem_reverse, ← hafter]
        exact List.mem_map_of_mem ha
      simpa [hn] using hlater _ hmem
  · rintro ⟨spelling, hin, hname, hlast⟩
    obtain ⟨before, after, rfl⟩ := List.append_of_mem hin
    refine ⟨(lowered after).reverse, (lowered before).reverse, ?_, fun p hp => ?_⟩
    · simp [lowered, hname]
    · obtain ⟨h, ha, rfl⟩ := List.mem_map.mp (List.mem_reverse.mp hp)
      have hlt : spelling < h.1 := hm.gt_of_append h ha
      have hne : name ≠ lowerName h.1 := fun he =>
        absurd (hlast h (by simp [ha]) he.symm) (Std.not_le.mpr hlt)
      simpa using hne

/-! ### All headers -/

/-- What the headers of a request come to: every name once, the fixed headers whatever the caller
says, and of every other name what the caller says. -/
structure Merged (caller : Headers) (body : Option Body) (sent : Headers) : Prop where
  once : (sent.map Prod.fst).Nodup
  agent : sent.lookup "user-agent" = some "gatecheck/0.3.0"
  accept : sent.lookup "accept" = some "*/*"
  json : ∀ v, body = some (.json v) → sent.lookup "content-type" = some "application/json"
  others : ∀ name value, name ≠ "user-agent" → name ≠ "accept" →
    (name = "content-type" → ∀ v, body ≠ some (.json v)) →
    (sent.lookup name = some value ↔ HasLast caller name value)
  kept : ∀ h ∈ caller, lowerName h.1 ∈ sent.map Prod.fst

theorem build_accepted (h : ∀ x ∈ headers, Accepts x) (body : Option Body) :
    build headers body = .ok (setAll (fixedHeaders body) (setAll (lowered headers) [])) := by
  rw [build, merge_accepted h]
  rfl

theorem lookup_setAll_fixed (hm : IsMap headers) (body : Option Body) (name value : String) :
    (setAll (fixedHeaders body) (setAll (lowered headers) [])).lookup name = some value ↔
      (fixedHeaders body).reverse.lookup name = some value ∨
        (fixedHeaders body).reverse.lookup name = none ∧ HasLast headers name value := by
  rw [lookup_setAll, lookup_setAll, Option.or_eq_some_iff, ← lookup_lowered hm]
  simp

theorem merged (hm : IsMap headers) (body : Option Body) :
    Merged headers body (setAll (fixedHeaders body) (setAll (lowered headers) [])) where
  once := nodup_setAll _ (nodup_setAll _ List.nodup_nil)
  agent := by
    rw [lookup_setAll_fixed hm]
    cases body with
    | none => exact .inl rfl
    | some b => cases b <;> exact .inl rfl
  accept := by
    rw [lookup_setAll_fixed hm]
    cases body with
    | none => exact .inl rfl
    | some b => cases b <;> exact .inl rfl
  json v hv := by
    rw [lookup_setAll_fixed hm, hv]
    exact .inl rfl
  others name value hagent haccept htype := by
    have hfree : (fixedHeaders body).reverse.lookup name = none := by
      cases body with
      | none => simp [fixedHeaders, contentType, Pairs.lookup_cons, hagent, haccept]
      | some b =>
        cases b with
        | text content => simp [fixedHeaders, contentType, Pairs.lookup_cons, hagent, haccept]
        | json v =>
          have hname : name ≠ "content-type" := fun hn => htype hn v rfl
          simp [fixedHeaders, contentType, Pairs.lookup_cons, hagent, haccept, hname]
    rw [lookup_setAll_fixed hm, hfree]
    simp
  kept h hh := by
    rw [mem_names_setAll, mem_names_setAll]
    refine .inr (.inl ?_)
    rw [lowered, List.map_map]
    exact List.mem_map_of_mem hh

/-! ### What is sent -/

theorem deliver_accepted {r : Request} {u : Url} (hb : build r.headers r.body = .ok sent)
    (hr : Url.read r.url = .ok u) (hu : Reaches u) {m : Type → Type} [Monad m]
    (network : Network m) : deliver network r =
      network.deliver ⟨r.method, { u with fragment := none }, sent, bodyText r.body⟩ := by
  have hp := prepare_eq_ok.mpr ⟨sent, u, hb, hr, hu, rfl⟩
  rw [deliver, hp]

/-- Of the headers that are refused, the one that comes first. -/
def FirstBad (headers : Headers) (bad : String × String) : Prop :=
  bad ∈ headers ∧ ¬ Accepts bad ∧ ∀ h ∈ headers, h.1 < bad.1 → Accepts h

theorem exists_firstBad (hm : IsMap headers) (h : ∃ x ∈ headers, ¬ Accepts x) :
    ∃ bad before after, headers = before ++ bad :: after ∧ (∀ x ∈ before, Accepts x) ∧
      FirstBad headers bad := by
  let isBad (x : String × String) : Bool := !(isName x.1 && isValue x.2)
  have hbad : ∀ x, isBad x = true ↔ ¬ Accepts x := fun x => by
    simp only [isBad, Accepts, Bool.not_eq_true', ← Bool.not_eq_true, Bool.and_eq_true]
  obtain ⟨x, hx, hxbad⟩ := h
  have hfound : (headers.find? isBad).isSome := List.find?_isSome.mpr ⟨x, hx, (hbad x).mpr hxbad⟩
  obtain ⟨bad, hfirst⟩ := Option.isSome_iff_exists.mp hfound
  obtain ⟨hb, before, after, rfl, hbefore⟩ := List.find?_eq_some_iff_append.mp hfirst
  have haccepted : ∀ x ∈ before, Accepts x := fun x hx => by
    have hgood := hbefore x hx
    rw [Bool.not_eq_true', ← Bool.not_eq_true, hbad, Classical.not_not] at hgood
    exact hgood
  refine ⟨bad, before, after, rfl, haccepted, by simp, (hbad bad).mp hb, fun h hh hlt => ?_⟩
  obtain hh | rfl | ha : h ∈ before ∨ h = bad ∨ h ∈ after := by simpa using hh
  · exact haccepted h hh
  · exact absurd hlt (String.lt_irrefl _)
  · exact absurd (String.lt_trans hlt (hm.gt_of_append h ha)) (String.lt_irrefl _)

theorem prepare_refused {r : Request} {bad : String × String} {before after : Headers}
    (hsplit : r.headers = before ++ bad :: after) (h : ∀ x ∈ before, Accepts x)
    (hbad : ¬ Accepts bad) : prepare r = .error (.badHeader bad.1) := by
  have hb : build r.headers r.body = .error bad.1 := by
    rw [build, hsplit, merge_refused h hbad]
    rfl
  rw [prepare, hb]
  rfl

/-- There is room for every header that is set. -/
def HasPlaces (isFull : Headers → Bool) (r : Request) : Prop :=
  ∀ before h after, settings r.headers r.body = before ++ h :: after →
    isFull (setAll before []) = false

theorem overflows_iff (isFull : Headers → Bool) (kept headers : Headers) :
    overflows isFull kept headers = true ↔
      ∃ before h after, headers = before ++ h :: after ∧ isFull (setAll before kept) = true := by
  induction headers generalizing kept with
  | nil => simp [overflows]
  | cons x rest ih =>
    rw [overflows, Bool.or_eq_true, ih]
    constructor
    · rintro (hfull | ⟨before, h, after, rfl, hfull⟩)
      · exact ⟨[], x, rest, rfl, hfull⟩
      · exact ⟨x :: before, h, after, rfl, hfull⟩
    · rintro ⟨before, h, after, hsplit, hfull⟩
      cases before with
      | nil => exact .inl hfull
      | cons y before =>
        obtain ⟨rfl, rfl⟩ := List.cons.inj hsplit
        exact .inr ⟨before, h, after, rfl, hfull⟩

theorem overflows_eq_false {isFull : Headers → Bool} {r : Request} :
    overflows isFull [] (settings r.headers r.body) = false ↔ HasPlaces isFull r := by
  rw [← Bool.not_eq_true, overflows_iff]
  simp [HasPlaces]

theorem length_setAll_le (headers kept : Headers) :
    (setAll headers kept).length ≤ headers.length + kept.length := by
  induction headers generalizing kept with
  | nil => exact Nat.le_add_left _ _
  | cons x headers ih =>
    have hset : setAll (x :: headers) kept = setAll headers (setHeader x.1 x.2 kept) := rfl
    have hlength : (setHeader x.1 x.2 kept).length ≤ kept.length + 1 := by
      rw [setHeader_eq]
      exact Pairs.length_assign_le _ _ _
    have hrest := ih (setHeader x.1 x.2 kept)
    rw [hset, List.length_cons]
    omega

theorem length_settings_le (headers : Headers) (body : Option Body) :
    (settings headers body).length ≤ headers.length + 3 := by
  have hfixed : (fixedHeaders body).length ≤ 3 := by
    cases body with
    | none => exact (by decide : 2 ≤ 3)
    | some b => cases b <;> simp [fixedHeaders, contentType]
  have hgood : ((headers.takeWhile fun h => isName h.1 && isValue h.2)).length ≤ headers.length :=
    (List.takeWhile_sublist _).length_le
  simp only [settings, lowered, List.length_append, List.length_map]
  split
  · exact Nat.add_le_add hgood hfixed
  · exact Nat.le_trans hgood (Nat.le_add_right _ _)

/-- There is room for few headers. -/
theorem hasPlaces_of_length {isFull : Headers → Bool} {r : Request} {n : Nat}
    (hfull : ∀ kept : Headers, kept.length < n + 3 → isFull kept = false)
    (h : r.headers.length ≤ n) : HasPlaces isFull r := by
  intro before x after hsplit
  have hlength := congrArg List.length hsplit
  have hsettings := length_settings_le r.headers r.body
  have hkept := length_setAll_le before []
  rw [List.length_append, List.length_cons] at hlength
  rw [List.length_nil] at hkept
  exact hfull _ (by omega)

theorem sendWithin_eq {isFull : Headers → Bool} {r : Request} (h : HasPlaces isFull r)
    {m : Type → Type} [Monad m] (network : Network m) (log : Log.Entry → m Unit) :
    sendWithin isFull network log r = (do pure (some (← send network log r))) := by
  rw [sendWithin, overflows_eq_false.mpr h]
  rfl

theorem isFullMap_of_few {n : Nat} (hn : n ≤ maxHeaders) (kept : Headers) (h : kept.length < n) :
    isFullMap kept = false :=
  decide_eq_false (by omega)

/-- The headers of a request. As long as there is room for all that are set: if all of the caller's
are well formed, the request carries the fixed headers and the caller's others, each name once; if
one of them is not, nothing is sent, and the exchange names the first such header. Where there is no
room, the program stops, and nothing is sent. -/
theorem headers_merged (isFull : Headers → Bool) (r : Request) (hm : IsMap r.headers) :
    (HasPlaces isFull r →
      ((∀ h ∈ r.headers, Accepts h) → ∃ sent, build r.headers r.body = .ok sent ∧
        Merged r.headers r.body sent ∧
        ∀ {m : Type → Type} [Monad m] (network : Network m) (log : Log.Entry → m Unit),
          sendWithin isFull network log r = (do pure (some (← send network log r))) ∧
          ∀ u, Url.read r.url = .ok u → Reaches u → deliver network r =
            network.deliver ⟨r.method, { u with fragment := none }, sent, bodyText r.body⟩) ∧
      ((∃ h ∈ r.headers, ¬ Accepts h) → ∃ bad, FirstBad r.headers bad ∧
        (∀ {m : Type → Type} [Monad m] (network : Network m),
          deliver network r = pure (.error (.badHeader bad.1))) ∧
        ∀ {σ : Type} (network : Network (StateM σ)) (log : Log.Entry → StateM σ Unit) (s : σ),
          ∃ elapsed, (sendWithin isFull network log r s).1 =
            some ⟨-1, "Invalid header '" ++ bad.1 ++ "'", elapsed⟩)) ∧
    (¬ HasPlaces isFull r → ∀ {m : Type → Type} [Monad m] (network : Network m)
      (log : Log.Entry → m Unit), sendWithin isFull network log r = pure none) := by
  refine ⟨fun hplaces => ⟨fun h => ?_, fun h => ?_⟩, fun hnone m _ network log => ?_⟩
  · refine ⟨_, build_accepted h r.body, merged hm r.body, fun network log => ⟨?_, ?_⟩⟩
    · exact sendWithin_eq hplaces network log
    · exact fun u hr hu => deliver_accepted (build_accepted h r.body) hr hu network
  · obtain ⟨bad, before, after, hsplit, hbefore, hfirst⟩ := exists_firstBad hm h
    have hp := prepare_refused hsplit hbefore hfirst.2.1
    have hdeliver : ∀ {m : Type → Type} [Monad m] (network : Network m),
        deliver network r = pure (.error (.badHeader bad.1)) := fun network => by
      rw [deliver, hp]
    refine ⟨bad, hfirst, hdeliver, fun network log s => ?_⟩
    rw [sendWithin_eq hplaces, send, hdeliver]
    exact ⟨_, rfl⟩
  · rw [← overflows_eq_false, Bool.not_eq_false] at hnone
    rw [sendWithin, hnone]
    rfl

/-- Several spellings of one name, and three names that the caller cannot set. -/
def spellings : Headers :=
  [("ACCEPT", "text/html"), ("Content-Type", "text/plain"), ("User-Agent", "curl/8.0"),
    ("X-Trace", "1"), ("x-trace", "2")]

/-- The first of these would not be sent with a JSON body, even if it were well formed. -/
def illFormed : Headers := [("Content-Type", "text\nplain"), ("x y", "1")]

theorem headers_merged_spellings :
    (IsMap spellings ∧ HasPlaces isFullMap ⟨"POST", "http://localhost/", spellings,
        some (.json .null)⟩ ∧ (∀ h ∈ spellings, Accepts h) ∧
      ∃ sent, build spellings (some (.json .null)) = .ok sent ∧
        sent.lookup "user-agent" = some "gatecheck/0.3.0" ∧
        sent.lookup "content-type" = some "application/json" ∧
        sent.lookup "x-trace" = some "2") ∧
    IsMap illFormed ∧ HasPlaces isFullMap ⟨"POST", "", illFormed, some (.json .null)⟩ ∧
      (∃ h ∈ illFormed, ¬ Accepts h) ∧
      ∀ network : Network (StateM Unit), ∃ elapsed,
        (sendWithin isFullMap network (fun _ => pure ())
          ⟨"POST", "", illFormed, some (.json .null)⟩ ()).1 =
          some ⟨-1, "Invalid header 'Content-Type'", elapsed⟩ := by
  have hm : IsMap spellings := by
    unfold IsMap
    decide
  have ha : ∀ h ∈ spellings, Accepts h := by
    simp only [Accepts]
    decide
  have hm' : IsMap illFormed := by
    unfold IsMap
    decide
  have hbad : ¬ Accepts ("Content-Type", "text\nplain") := by
    simp only [Accepts]
    decide
  have hb : ∃ h ∈ illFormed, ¬ Accepts h := ⟨_, List.mem_cons_self, hbad⟩
  have hroom : HasPlaces isFullMap ⟨"POST", "http://localhost/", spellings, some (.json .null)⟩ :=
    hasPlaces_of_length (isFullMap_of_few (by decide)) (Nat.le_refl _)
  have hroom' : HasPlaces isFullMap ⟨"POST", "", illFormed, some (.json .null)⟩ :=
    hasPlaces_of_length (isFullMap_of_few (by decide)) (Nat.le_refl _)
  refine ⟨⟨hm, hroom, ha, ?_⟩, hm', hroom', hb, fun network => ?_⟩
  · obtain ⟨sent, hsent, hmerged, _⟩ := ((headers_merged isFullMap
      ⟨"POST", "http://localhost/", spellings, some (.json .null)⟩ hm).1 hroom).1 ha
    refine ⟨sent, hsent, hmerged.agent, hmerged.json _ rfl, ?_⟩
    rw [hmerged.others "x-trace" "2" (by decide) (by decide) fun h => absurd h (by decide)]
    exact ⟨"x-trace", by decide, by decide, by decide⟩
  · obtain ⟨bad, ⟨hin, _, hfirst⟩, _, hsend⟩ := ((headers_merged isFullMap
      ⟨"POST", "", illFormed, some (.json .null)⟩ hm').1 hroom').2 hb
    obtain rfl | rfl : bad = ("Content-Type", "text\nplain") ∨ bad = ("x y", "1") := by
      simpa [illFormed] using hin
    · exact hsend network _ ()
    · exact absurd (hfirst _ List.mem_cons_self (by decide)) hbad

/-! ### Too many headers -/

/-- All words of so many letters, in their order. -/
def wordsOf (letters : List Char) : Nat → List (List Char)
  | 0 => [[]]
  | n + 1 => letters.flatMap fun c => (wordsOf letters n).map (c :: ·)

theorem length_wordsOf (letters : List Char) (n : Nat) :
    (wordsOf letters n).length = Nat.pow letters.length n := by
  induction n with
  | zero => rfl
  | succ n ih =>
    simp only [wordsOf, List.length_flatMap, List.length_map, ih, List.map_const',
      List.sum_replicate_nat]
    exact Nat.pow_succ'.symm

theorem mem_of_mem_wordsOf {letters word : List Char} {n : Nat} (h : word ∈ wordsOf letters n) :
    word.length = n ∧ ∀ c ∈ word, c ∈ letters := by
  induction n generalizing word with
  | zero =>
    obtain rfl := List.mem_singleton.mp h
    exact ⟨rfl, fun c hc => absurd hc List.not_mem_nil⟩
  | succ n ih =>
    obtain ⟨c, hc, hword⟩ := List.mem_flatMap.mp h
    obtain ⟨rest, hrest, rfl⟩ := List.mem_map.mp hword
    obtain ⟨hlength, hall⟩ := ih hrest
    exact ⟨congrArg Nat.succ hlength, List.forall_mem_cons.mpr ⟨hc, hall⟩⟩

theorem pairwise_wordsOf {letters : List Char} (h : letters.Pairwise (· < ·)) (n : Nat) :
    (wordsOf letters n).Pairwise (· < ·) := by
  induction n with
  | zero => exact List.pairwise_singleton _ _
  | succ n ih =>
    rw [wordsOf, List.pairwise_flatMap]
    refine ⟨fun c _ => List.pairwise_map.mpr (ih.imp fun hab => ?_), h.imp fun hcd x hx y hy => ?_⟩
    · exact List.cons_lt_cons_iff.mpr (.inr ⟨rfl, hab⟩)
    · obtain ⟨v, _, rfl⟩ := List.mem_map.mp hx
      obtain ⟨w, _, rfl⟩ := List.mem_map.mp hy
      exact List.cons_lt_cons_iff.mpr (.inl hcd)

def thirtyMarks : List Char := "0123456789abcdefghijklmnopqrst".toList

/-- More headers than there is room for, and nothing wrong with any of them. -/
def manyHeaders : Headers := (wordsOf thirtyMarks 3).map fun word => (String.ofList word, "")

theorem isMap_manyHeaders : IsMap manyHeaders := by
  refine List.pairwise_map.mpr ((pairwise_wordsOf (by decide) 3).imp fun h => ?_)
  rwa [String.lt_iff, String.toList_ofList, String.toList_ofList]

theorem size_ofList_le (cs : List Char) : (String.ofList cs).utf8ByteSize ≤ 4 * cs.length := by
  induction cs with
  | nil => exact Nat.le_refl _
  | cons c cs ih =>
    have hc := c.utf8Size_le_four
    rw [String.ofList_cons, String.utf8ByteSize_append, String.utf8ByteSize_singleton,
      List.length_cons]
    omega

theorem accepts_manyHeaders : ∀ h ∈ manyHeaders, Accepts h := by
  intro h hh
  obtain ⟨word, hword, rfl⟩ := List.mem_map.mp hh
  obtain ⟨hlength, hall⟩ := mem_of_mem_wordsOf hword
  have hsize := size_ofList_le word
  have hmarks : ∀ c ∈ thirtyMarks, isNameChar c = true := List.all_eq_true.mp (by decide)
  have hempty : (String.ofList word).isEmpty = false := by
    rw [String.isEmpty_eq_false_iff, ne_eq, String.ofList_eq_empty_iff]
    exact List.ne_nil_of_length_eq_add_one hlength
  have hname : isName (String.ofList word) = true := by
    rw [isName, hempty, String.toList_ofList, Bool.and_eq_true, Bool.and_eq_true,
      decide_eq_true_iff, List.all_eq_true, longestName]
    exact ⟨⟨rfl, by omega⟩, fun c hc => hmarks c (hall c hc)⟩
  exact ⟨hname, show isValue "" = true by decide⟩

theorem lowered_manyHeaders : lowered manyHeaders = manyHeaders := by
  have hsmall : ∀ c ∈ thirtyMarks, (c.toLower == c) = true := List.all_eq_true.mp (by decide)
  rw [lowered, manyHeaders, List.map_map]
  refine List.map_congr_left fun word hword => ?_
  have hsame : word.map Char.toLower = word := by
    conv_rhs => rw [← List.map_id word]
    exact List.map_congr_left fun c hc =>
      beq_iff_eq.mp (hsmall c ((mem_of_mem_wordsOf hword).2 c hc))
  rw [Function.comp_apply, lowerName, String.toList_ofList, hsame]

theorem settings_manyHeaders :
    settings manyHeaders none = manyHeaders ++ fixedHeaders none := by
  have hgood : manyHeaders.takeWhile (fun h => isName h.1 && isValue h.2) =
      manyHeaders := by
    refine List.takeWhile_eq_self_iff.mpr fun h hh => ?_
    exact (Bool.and_eq_true _ _).mpr (accepts_manyHeaders h hh)
  simp only [settings, hgood, lowered_manyHeaders, if_true]

theorem nodup_manyHeaders : (manyHeaders.map Prod.fst).Nodup :=
  List.pairwise_map.mpr (isMap_manyHeaders.imp fun h => String.ne_of_lt h)

/-- Well-formed headers of small names stop the program if there are too many of them. -/
theorem headers_overflow : IsMap manyHeaders ∧ (∀ h ∈ manyHeaders, Accepts h) ∧
    ∀ {m : Type → Type} [Monad m] (network : Network m) (log : Log.Entry → m Unit),
      sendWithin isFullMap network log ⟨"GET", "http://localhost:11435/v1/models", manyHeaders,
        none⟩ = pure none := by
  refine ⟨isMap_manyHeaders, accepts_manyHeaders, fun {m} _ network log => ?_⟩
  have hlength : manyHeaders.length = 27000 := by
    rw [manyHeaders, List.length_map, length_wordsOf]
    rfl
  have hoverflow : overflows isFullMap [] (settings manyHeaders none) = true := by
    have hlt : maxHeaders < manyHeaders.length := by rw [hlength]; decide
    refine (overflows_iff _ _ _).mpr ⟨manyHeaders.take maxHeaders, manyHeaders[maxHeaders],
      manyHeaders.drop (maxHeaders + 1) ++ fixedHeaders none, ?_, ?_⟩
    · rw [settings_manyHeaders, ← List.cons_append, ← List.drop_eq_getElem_cons hlt,
        ← List.append_assoc, List.take_append_drop]
    · have hnames : ((manyHeaders.take maxHeaders).map Prod.fst).Nodup :=
        nodup_manyHeaders.sublist ((List.take_sublist _ _).map _)
      have hkept : (manyHeaders.take maxHeaders).map Prod.fst ⊆
          (setAll (manyHeaders.take maxHeaders) []).map Prod.fst :=
        fun name hn => mem_names_setAll.mpr (.inl hn)
      have hle := (List.Nodup.subperm hnames hkept).length_le
      rw [List.length_map, List.length_map, List.length_take, Nat.min_eq_left hlt.le] at hle
      exact decide_eq_true hle
  rw [sendWithin, hoverflow]
  rfl

end Conformance.Transport
