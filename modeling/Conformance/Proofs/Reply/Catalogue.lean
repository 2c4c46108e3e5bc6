import Conformance.Proofs.Json.Takes
import Conformance.Proofs.Reply.Evidence
import Conformance.Proofs.Reply.Messages

/-! Listings and embeddings. However a protocol wraps them, the verdict is one function of the models
or of the vector: how many there are, if they are a list of the right kind. -/
namespace Conformance.Reply

open Json (AnyNumber Decoder Members Nested Record Spells isVector listOf orNull)

variable {body body' : String} {members : Members} {v : Json} {limit limit' : Nat}

/-! ### Listings -/

/-- The verdict on the models of a listing, whatever else stands beside them. -/
def listingVerdict (c : Catalogue) : Json → Verdict
  | .array items => .pass s!"HTTP 200, {items.length} models" (.count items.length)
  | other => (Complaint.malformed c.protocol (.invalidType other "a sequence")).verdict

/-- Models may be any values. -/
theorem list_value (items : List Json) :
    Decoder.list Decoder.value (.array items) = .ok items := by
  have hm : items.mapM Decoder.value = .ok (items.map id) :=
    Outcome.mapM_eq_ok_map fun _ _ => rfl
  rwa [List.map_id] at hm

theorem modelsVerdict_eq {c : Catalogue} (hr : Json.read body = .ok (.object members))
    (hv : members.get? c.modelField = some v) : modelsVerdict c 200 body = listingVerdict c v := by
  have ho : members.Ordered := (Json.sorted_read hr).ordered
  have hc : withOneOf [c.modelField] c.listName members = .ok () := by
    simp [withOneOf, Members.contains_eq_isSome, hv]
  simp only [modelsVerdict, object_eq_ok hr, hc, decode, Catalogue.models_ofMembers ho hv, bind,
    Except.bind]
  cases v with
  | array items =>
    rw [list_value]
    rfl
  | _ => rfl

/-- The verdict on a listing says of `v` whether it is a list, and how long a one. -/
structure CountsModels (v : Json) (w : Verdict) : Prop where
  passed_iff : w.passed ↔ ∃ items, v = .array items
  extracted : ∀ items, v = .array items → w.extracted = some (.count items.length)
  fault : w.passed = false → w.fault = some .decode

theorem countsModels_listingVerdict (c : Catalogue) (v : Json) :
    CountsModels v (listingVerdict c v) := by
  cases v with
  | array items =>
    exact ⟨⟨fun _ => ⟨items, rfl⟩, fun _ => rfl⟩, fun _ h => by cases h; rfl, nofun⟩
  | _ => exact ⟨⟨nofun, nofun⟩, nofun, fun _ => rfl⟩

theorem sameFinding_listingVerdict (c c' : Catalogue) (v : Json) :
    SameFinding (listingVerdict c v) (listingVerdict c' v) := by
  cases v with
  | array items => exact .of_eq rfl
  | _ => exact ⟨rfl, rfl, rfl, fun hn => absurd rfl hn⟩

/-! ### Embeddings -/

/-- The verdict on a vector of so many dimensions. -/
def dimensionsVerdict (n : Nat) : Verdict :=
  if n = 0 then .fail .semantic "Empty embedding"
  else .pass s!"Embedding OK, {n} dimensions" (.count n)

/-- The verdict on what was read of an embedding. -/
def vectorVerdict (c : Catalogue) (found : Except Json.DecodeError (List Number)) : Verdict :=
  match found with
  | .ok vector => dimensionsVerdict vector.length
  | .error cause => (Complaint.malformed c.protocol cause).verdict

theorem embeddingVerdict_eq {c : Catalogue} (hr : Json.read body = .ok (.object members))
    (hf : ∃ field ∈ c.embeddingFields, (members.get? field).isSome) :
    embeddingVerdict c 200 body = vectorVerdict c (c.embedding.ofMembers members) := by
  have hc : withOneOf c.embeddingFields (c.protocol.displayName ++ " embedding response") members =
      .ok () := by
    obtain ⟨field, hm, hs⟩ := hf
    refine if_pos (List.any_eq_true.mpr ⟨field, hm, ?_⟩)
    rwa [Members.contains_eq_isSome]
  simp only [embeddingVerdict, object_eq_ok hr, hc, decode, bind, Except.bind]
  cases c.embedding.ofMembers members with
  | error cause => rfl
  | ok vector => cases vector <;> rfl

theorem dimensionsVerdict_pos {n : Nat} (h : n ≠ 0) :
    dimensionsVerdict n = .pass s!"Embedding OK, {n} dimensions" (.count n) :=
  if_neg h

/-- The verdict on an embedding says of `v` whether it is a list of numbers that is not empty, and how
many there are. -/
structure CountsNumbers (v : Json) (w : Verdict) : Prop where
  passed_iff : w.passed ↔ isVector v ∧ v.elements ≠ []
  extracted : w.passed → w.extracted = some (.count v.elements.length)
  nothing : w.passed = false → w.extracted = none

theorem CountsNumbers.agree {w w' : Verdict} (h : CountsNumbers v w) (h' : CountsNumbers v w') :
    w.passed = w'.passed ∧ w.extracted = w'.extracted := by
  have hp : w.passed = w'.passed := by
    rw [Bool.eq_iff_iff, h.passed_iff, h'.passed_iff]
  refine ⟨hp, ?_⟩
  cases hw : w.passed with
  | true => rw [h.extracted hw, h'.extracted (hp ▸ hw)]
  | false => rw [h.nothing hw, h'.nothing (hp ▸ hw)]

/-- What is no list of numbers may be read as an empty one, but as no other. -/
theorem countsNumbers_vectorVerdict (c : Catalogue)
    {found : Except Json.DecodeError (List Number)}
    (hv : isVector v = true → ∃ numbers, found = .ok numbers ∧ numbers.length = v.elements.length)
    (hn : isVector v = false → found = .ok [] ∨ ∃ cause, found = .error cause) :
    CountsNumbers v (vectorVerdict c found) := by
  cases hs : isVector v with
  | false =>
    have hfail : isVector v ∧ v.elements ≠ [] → False := fun h => by rw [hs] at h; cases h.1
    rcases hn hs with rfl | ⟨cause, rfl⟩ <;>
      exact ⟨⟨nofun, fun h => (hfail h).elim⟩, nofun, fun _ => rfl⟩
  | true =>
    obtain ⟨numbers, rfl, hl⟩ := hv hs
    rw [vectorVerdict, hl]
    by_cases he : v.elements = []
    · rw [he]
      exact ⟨⟨nofun, fun h => absurd he h.2⟩, nofun, fun _ => rfl⟩
    · rw [dimensionsVerdict_pos (mt List.length_eq_zero_iff.mp he)]
      exact ⟨⟨fun _ => ⟨hs, he⟩, fun _ => rfl⟩, fun _ => rfl, nofun⟩

/-- The dimensions of the first of several vectors, or of a single one where there is none. -/
def dimensions (vectors single : Json) : Nat :=
  match vectors.elements with
  | first :: _ => first.elements.length
  | [] => single.elements.length

theorem takes_vectors : Json.Takes (Decoder.nullable (Decoder.list Catalogue.vector))
    (orNull (listOf isVector)) fun v found =>
      (found.bind List.head?).map List.length = v.elements.head?.map (·.elements.length) := by
  refine Json.takes_vector.list.nullable.mono fun v found h => ?_
  obtain ⟨rfl, rfl⟩ | ⟨vectors, rfl, h⟩ := h
  · rfl
  · cases hv : v.elements with
    | nil =>
      rw [hv] at h
      cases h
      rfl
    | cons first rest =>
      rw [hv] at h
      cases h with
      | cons hl _ => exact congrArg some hl

theorem takes_single : Json.Takes (Decoder.nullable Catalogue.vector) (orNull isVector)
    fun v found => (found.getD []).length = v.elements.length := by
  refine Json.takes_vector.nullable.mono fun v found h => ?_
  obtain ⟨rfl, rfl⟩ | ⟨vector, rfl, h⟩ := h
  · rfl
  · exact h

/-- A member that is not there is read as null is. -/
theorem ofMembers_nullable {α : Type} (item : Decoder α) (ho : members.Ordered) (key : String) :
    (Record.defaulted key (Decoder.nullable item) none).ofMembers members =
      Decoder.nullable item (Json.member key (.object members)) := by
  rw [Record.ofMembers_defaulted ho, Json.member]
  cases members.get? key <;> rfl

/-- Ollama's vectors come before the single one. Both must be what they should, if they are there. -/
theorem ollama_reads (ho : members.Ordered) :
    (orNull (listOf isVector) (Json.member "embeddings" (.object members)) = true →
      orNull isVector (Json.member "embedding" (.object members)) = true →
      ∃ numbers, Catalogue.ollama.embedding.ofMembers members = .ok numbers ∧
        numbers.length = dimensions (Json.member "embeddings" (.object members))
          (Json.member "embedding" (.object members))) ∧
    (orNull (listOf isVector) (Json.member "embeddings" (.object members)) = false ∨
      orNull isVector (Json.member "embedding" (.object members)) = false →
      ∃ cause, Catalogue.ollama.embedding.ofMembers members = .error cause) := by
  have hvectors := ofMembers_nullable (Decoder.list Catalogue.vector) ho "embeddings"
  have hsingle := ofMembers_nullable Catalogue.vector ho "embedding"
  rw [Catalogue.embedding, Record.ofMembers_map]
  constructor
  · intro hv hs
    obtain ⟨vectors, hrv, hlv⟩ := (takes_vectors _).1 hv
    obtain ⟨single, hrs, hls⟩ := (takes_single _).1 hs
    rw [Record.ofMembers_and.mpr ⟨hvectors.trans hrv, hsingle.trans hrs⟩]
    refine ⟨_, rfl, ?_⟩
    unfold dimensions
    cases he : (Json.member "embeddings" (.object members)).elements with
    | nil =>
      rw [he] at hlv
      have hnone : vectors.bind List.head? = none := Option.map_eq_none_iff.mp hlv
      simp only [hnone, Option.none_or]
      exact hls
    | cons first rest =>
      rw [he] at hlv
      obtain ⟨vector, hb, hl⟩ := Option.map_eq_some_iff.mp hlv
      simp only [hb, Option.some_or]
      exact hl
  · intro hn
    cases hr : Record.ofMembers _ members with
    | error cause => exact ⟨cause, rfl⟩
    | ok both =>
      obtain ⟨hv, hs⟩ := Record.ofMembers_and.mp hr
      rcases hn with hn | hn
      · obtain ⟨cause, hc⟩ := (takes_vectors _).2 hn
        cases (hvectors.trans hc).symm.trans hv
      · obtain ⟨cause, hc⟩ := (takes_single _).2 hn
        cases (hsingle.trans hc).symm.trans hs

/-- The forms of a response with a vector. Ollama has an older one, without a list of vectors. -/
inductive Form where
  | openAI
  | gemini
  | ollama
  | olderOllama
deriving DecidableEq, Repr

namespace Form

def catalogue : Form → Catalogue
  | openAI => .openAI
  | gemini => .gemini
  | ollama => .ollama
  | olderOllama => .ollama

/-- A response with this vector, and nothing beside it. -/
def response (v : Json) : Form → Members
  | openAI => [("data", .array [.object [("embedding", v)]])]
  | gemini => [("embedding", .object [("values", v)])]
  | ollama => [("embeddings", .array [v])]
  | olderOllama => [("embedding", v)]

/-- The brackets that are open around the vector. -/
def around : Form → Nat
  | openAI => 3
  | gemini => 2
  | ollama => 2
  | olderOllama => 1

theorem response_has_field (f : Form) (v : Json) :
    ∃ field ∈ f.catalogue.embeddingFields, ((f.response v).get? field).isSome := by
  cases f with
  | openAI => exact ⟨"data", List.mem_cons_self, rfl⟩
  | gemini => exact ⟨"embedding", List.mem_cons_self, rfl⟩
  | ollama => exact ⟨"embeddings", List.mem_cons_self, rfl⟩
  | olderOllama => exact ⟨"embedding", List.mem_cons_of_mem _ List.mem_cons_self, rfl⟩

/-- A vector nested too deep leaves no room for what is around it. -/
theorem nested_response {f : Form}
    (h : Nested AnyNumber (limit + f.around) (.object (f.response v))) :
    Nested AnyNumber limit v := by
  cases f <;> simpa [response, around] using h

theorem openAI_reads (v : Json) :
    Catalogue.openAI.embedding.ofMembers (openAI.response v) = Catalogue.vector v := by
  have hdata : (Record.required "embedding" Catalogue.vector).decoder "struct EmbeddingData"
      (.object [("embedding", v)]) = Catalogue.vector v :=
    Record.ofMembers_required (Members.ordered_singleton _ _) rfl
  rw [Catalogue.embedding, response, Record.ofMembers_map,
    Record.ofMembers_required (Members.ordered_singleton _ _) rfl, Decoder.list, List.mapM_cons,
    hdata]
  cases Catalogue.vector v <;> rfl

theorem gemini_reads (v : Json) :
    Catalogue.gemini.embedding.ofMembers (gemini.response v) = Catalogue.vector v := by
  rw [Catalogue.embedding, response, Record.ofMembers_required (Members.ordered_singleton _ _) rfl]
  exact Record.ofMembers_required (Members.ordered_singleton _ _) rfl

/-- What is read of such a response is the vector, or nothing where there is none. -/
theorem embedding_reads (f : Form) (v : Json) :
    (isVector v = true → ∃ numbers, f.catalogue.embedding.ofMembers (f.response v) = .ok numbers ∧
      numbers.length = v.elements.length) ∧
    (isVector v = false → f.catalogue.embedding.ofMembers (f.response v) = .ok [] ∨
      ∃ cause, f.catalogue.embedding.ofMembers (f.response v) = .error cause) := by
  obtain ⟨htakes, hrefuses⟩ := Json.takes_vector v
  cases f with
  | openAI =>
    rw [catalogue, openAI_reads]
    exact ⟨htakes, fun hn => Or.inr (hrefuses hn)⟩
  | gemini =>
    rw [catalogue, gemini_reads]
    exact ⟨htakes, fun hn => Or.inr (hrefuses hn)⟩
  | ollama =>
    obtain ⟨hreads, hfails⟩ := ollama_reads (Members.ordered_singleton "embeddings" (.array [v]))
    have hshape : orNull (listOf isVector) (.array [v]) = isVector v := Bool.and_true _
    exact ⟨fun hv => hreads (hshape.trans hv) rfl,
      fun hn => Or.inr (hfails (Or.inl (hshape.trans hn)))⟩
  | olderOllama =>
    obtain ⟨hreads, hfails⟩ := ollama_reads (Members.ordered_singleton "embedding" v)
    by_cases hnull : v = .null
    · subst hnull
      exact ⟨nofun, fun _ => Or.inl rfl⟩
    · have hshape : orNull isVector v = isVector v := Json.orNull_of_ne hnull
      exact ⟨fun hv => hreads rfl (hshape.trans hv),
        fun hn => Or.inr (hfails (Or.inr (hshape.trans hn)))⟩

end Form

/-! ### Texts of either -/

/-- A text of an object with this member. -/
def Holds (limit : Nat) (body key : String) (v : Json) : Prop :=
  ∃ members : Members, Spells limit body (.object members) ∧ members.get? key = some v

/-- A member nested too deep leaves no room for its object. -/
theorem Holds.nested {key : String} (h : Holds (limit + 1) body key v) :
    Nested AnyNumber limit v := by
  obtain ⟨members, hb, hv⟩ := h
  exact Nested.object_iff.mp hb.nested _ (Members.mem_of_get?_eq_some hv)

theorem SameFinding.of_decode {w w' : Verdict}
    (h : w.passed = false ∧ w.fault = some .decode ∧ w.extracted = none)
    (h' : w'.passed = false ∧ w'.fault = some .decode ∧ w'.extracted = none) : SameFinding w w' :=
  ⟨h.1.trans h'.1.symm, h.2.1.trans h'.2.1.symm, h.2.2.trans h'.2.2.symm,
    fun hn => absurd h.2.1 hn⟩

theorem modelsVerdict_within {c : Catalogue} (h : Holds 127 body c.modelField v) :
    modelsVerdict c 200 body = listingVerdict c v := by
  obtain ⟨members, hb, hv⟩ := h
  exact modelsVerdict_eq (Json.read_eq_ok_iff.mpr hb) hv

theorem modelsVerdict_beyond {c : Catalogue} (h : Holds limit body c.modelField v)
    (hd : ¬ Holds 127 body c.modelField v) :
    (modelsVerdict c 200 body).passed = false ∧
      (modelsVerdict c 200 body).fault = some .decode ∧
      (modelsVerdict c 200 body).extracted = none := by
  obtain ⟨members, hb, hv⟩ := h
  exact verdict_deep (.models c) hb fun hw => hd ⟨members, hw, hv⟩

/-- Two listings of the same models are judged alike if both are read, and if neither is. -/
theorem sameFinding_models {c c' : Catalogue} (h : Holds limit body c.modelField v)
    (h' : Holds limit' body' c'.modelField v)
    (hw : Holds 127 body c.modelField v ↔ Holds 127 body' c'.modelField v) :
    SameFinding (modelsVerdict c 200 body) (modelsVerdict c' 200 body') := by
  by_cases hr : Holds 127 body c.modelField v
  · rw [modelsVerdict_within hr, modelsVerdict_within (hw.mp hr)]
    exact sameFinding_listingVerdict c c' v
  · exact .of_decode (modelsVerdict_beyond h hr) (modelsVerdict_beyond h' (mt hw.mpr hr))

theorem embeddingVerdict_within {f : Form} (h : Spells 127 body (.object (f.response v))) :
    CountsNumbers v (embeddingVerdict f.catalogue 200 body) := by
  rw [embeddingVerdict_eq (Json.read_eq_ok_iff.mpr h) (f.response_has_field v)]
  exact countsNumbers_vectorVerdict _ (f.embedding_reads v).1 (f.embedding_reads v).2

/-- Two responses with the same vector are judged alike if both are read, and if neither is. -/
theorem embeddings_agree {f f' : Form} (h : Spells limit body (.object (f.response v)))
    (h' : Spells limit' body' (.object (f'.response v)))
    (hw : Spells 127 body (.object (f.response v)) ↔ Spells 127 body' (.object (f'.response v))) :
    (embeddingVerdict f.catalogue 200 body).passed =
        (embeddingVerdict f'.catalogue 200 body').passed ∧
      (embeddingVerdict f.catalogue 200 body).extracted =
        (embeddingVerdict f'.catalogue 200 body').extracted := by
  by_cases hr : Spells 127 body (.object (f.response v))
  · exact (embeddingVerdict_within hr).agree (embeddingVerdict_within (hw.mp hr))
  · have hfound := SameFinding.of_decode (verdict_deep (.embedding f.catalogue) h hr)
      (verdict_deep (.embedding f'.catalogue) h' (mt hw.mpr hr))
    exact ⟨hfound.passed, hfound.extracted⟩

/-- Of two members with vectors, both have to be what they should, and the list comes first. -/
theorem ollama_dimensions {vectors single : Json} (hr : Json.read body = .ok (.object members))
    (hv : members.get? "embeddings" = some vectors) (hs : members.get? "embedding" = some single) :
    (orNull (listOf isVector) vectors = true → orNull isVector single = true →
      embeddingVerdict .ollama 200 body = dimensionsVerdict (dimensions vectors single)) ∧
    (orNull (listOf isVector) vectors = false ∨ orNull isVector single = false →
      (embeddingVerdict .ollama 200 body).fault = some .decode) := by
  have hread := ollama_reads (Json.sorted_read hr).ordered
  simp only [Json.member, hv, hs, Option.getD_some] at hread
  rw [embeddingVerdict_eq hr ⟨"embeddings", List.mem_cons_self, by rw [hv]; rfl⟩]
  refine ⟨fun hv hs => ?_, fun hn => ?_⟩
  · obtain ⟨numbers, hn, hl⟩ := hread.1 hv hs
    rw [hn, vectorVerdict, hl]
  · obtain ⟨cause, hc⟩ := hread.2 hn
    rw [hc]
    rfl

/-- The protocols judge listings alike, and embeddings, and say how long they are. They do so for
every text in which no more than 127 brackets are open at once: more are a fault of decoding, and a
value nested too deep brings them with it. -/
theorem probes_judged_alike (v : Json) :
    (∀ (c c' : Catalogue) (limit limit' : Nat) (body body' : String),
      Holds limit body c.modelField v → Holds limit' body' c'.modelField v →
      ((Holds 127 body c.modelField v ↔ Holds 127 body' c'.modelField v) →
        SameFinding (modelsVerdict c 200 body) (modelsVerdict c' 200 body')) ∧
      (Holds 127 body c.modelField v → CountsModels v (modelsVerdict c 200 body)) ∧
      (¬ Holds 127 body c.modelField v → (modelsVerdict c 200 body).fault = some .decode) ∧
      (¬ Nested AnyNumber 126 v → ¬ Holds 127 body c.modelField v)) ∧
    (∀ (f f' : Form) (limit limit' : Nat) (body body' : String),
      Spells limit body (.object (f.response v)) →
      Spells limit' body' (.object (f'.response v)) →
      ((Spells 127 body (.object (f.response v)) ↔ Spells 127 body' (.object (f'.response v))) →
        (embeddingVerdict f.catalogue 200 body).passed =
            (embeddingVerdict f'.catalogue 200 body').passed ∧
          (embeddingVerdict f.catalogue 200 body).extracted =
            (embeddingVerdict f'.catalogue 200 body').extracted) ∧
      (Spells 127 body (.object (f.response v)) →
        CountsNumbers v (embeddingVerdict f.catalogue 200 body)) ∧
      (¬ Spells 127 body (.object (f.response v)) →
        (embeddingVerdict f.catalogue 200 body).fault = some .decode) ∧
      (¬ Nested AnyNumber (127 - f.around) v → ¬ Spells 127 body (.object (f.response v)))) ∧
    ∀ (members : Members) (single : Json) (body : String),
      Spells 127 body (.object members) →
      members.get? "embeddings" = some v → members.get? "embedding" = some single →
      (orNull (listOf isVector) v = true → orNull isVector single = true →
        embeddingVerdict .ollama 200 body = dimensionsVerdict (dimensions v single)) ∧
      (orNull (listOf isVector) v = false ∨ orNull isVector single = false →
        (embeddingVerdict .ollama 200 body).fault = some .decode) := by
  refine ⟨fun c c' limit limit' body body' h h' => ⟨sameFinding_models h h', fun hw => ?_,
      fun hd => (modelsVerdict_beyond h hd).2.1, mt Holds.nested⟩,
    fun f f' limit limit' body body' h h' => ⟨embeddings_agree h h', embeddingVerdict_within,
      fun hd => (verdict_deep (.embedding f.catalogue) h hd).2.1, mt fun hw => ?_⟩,
    fun members single body hb => ollama_dimensions (Json.read_eq_ok_iff.mpr hb)⟩
  · rw [modelsVerdict_within hw]
    exact countsModels_listingVerdict c v
  · refine Form.nested_response (f := f) ?_
    rw [Nat.sub_add_cancel (by cases f <;> decide)]
    exact hw.nested

/-- Two models as OpenAI lists them, and as Gemini does. -/
def listedAsData : String := "\x7b\"object\":\"list\",\"data\":[1,\"b\"]\x7d"

def listedOnPage : String := "\x7b\"models\":[1,\"b\"],\"nextPageToken\":null\x7d"

def twoModels : Json := .array [.number (.integer 1), .string "b"]

theorem probes_judged_alike_listed :
    Holds 127 listedAsData "data" twoModels ∧ Holds 127 listedOnPage "models" twoModels ∧
      SameFinding (modelsVerdict .openAI 200 listedAsData)
        (modelsVerdict .gemini 200 listedOnPage) ∧
      (modelsVerdict .openAI 200 listedAsData).extracted = some (.count 2) := by
  have hdata : Holds 127 listedAsData "data" twoModels :=
    ⟨[("data", twoModels), ("object", .string "list")], Json.read_eq_ok_iff.mp (by cbv), rfl⟩
  have hpage : Holds 127 listedOnPage "models" twoModels :=
    ⟨[("models", twoModels), ("nextPageToken", .null)], Json.read_eq_ok_iff.mp (by cbv), rfl⟩
  obtain ⟨hsame, hcount, _⟩ :=
    (probes_judged_alike twoModels).1 .openAI .gemini 127 127 _ _ hdata hpage
  exact ⟨hdata, hpage, hsame ⟨fun _ => hpage, fun _ => hdata⟩, (hcount hdata).extracted _ rfl⟩

/-- A list of one model, of so many brackets that there is no room for those around it. -/
theorem deep_listing_fails :
    Holds 128 (Json.object [("data", listWithin 126)]).pretty "data" (listWithin 126) ∧
      listWithin 126 = .array [listWithin 125] ∧
      (modelsVerdict .openAI 200 (Json.object [("data", listWithin 126)]).pretty).passed =
        false ∧
      (modelsVerdict .openAI 200 (Json.object [("data", listWithin 126)]).pretty).fault =
        some .decode := by
  have hholds : Holds 128 (Json.object [("data", listWithin 126)]).pretty "data"
      (listWithin 126) :=
    ⟨_, Json.spells_pretty_of_sorted (.object (List.forall_mem_singleton.mpr (fits_listWithin 126)))
      (.object (Members.ordered_singleton _ _)
        (List.forall_mem_singleton.mpr (sorted_listWithin 126))), rfl⟩
  obtain ⟨hp, hf, _⟩ := modelsVerdict_beyond (c := .openAI) hholds fun hw =>
    absurd (lt_of_nested_listWithin hw.nested) (by decide)
  exact ⟨hholds, rfl, hp, hf⟩

end Conformance.Reply
