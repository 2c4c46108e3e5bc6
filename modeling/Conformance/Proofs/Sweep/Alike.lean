import Conformance.Proofs.Request.Address
import Conformance.Proofs.Request.Headers
import Conformance.Proofs.Sweep.Outline
import Mathlib.Data.List.Forall2

/-! The cases of two configurations that differ in nothing but the key. They are the same, case by
case, up to where the key stands in a request. -/
namespace Conformance

open List (Forall₂)

variable {c : Config} {k₁ k₂ : String} {plan : Plan} {a b : Case}

/-- The configuration with another key. -/
def Config.withKey (c : Config) (key : String) : Config :=
  { c with target := { c.target with apiKey := key } }

/-- An address of the gateway without the key, or the same address with one key and the other. -/
def AlikeUrls (base k₁ k₂ url₁ url₂ : String) : Prop :=
  ∃ s, Tail s ∧ ((url₁ = base ++ s ∧ url₂ = base ++ s) ∨
    (url₁ = Gemini.keyed (base ++ s) k₁ ∧ url₂ = Gemini.keyed (base ++ s) k₂))

/-- One case under two keys. -/
structure Alike (base k₁ k₂ : String) (a b : Case) : Prop where
  id : a.id = { b.id with url := a.id.url }
  masked : a.id.url = Redaction.mask a.url ∧ b.id.url = Redaction.mask b.url
  check : a.check = b.check
  body : a.body = b.body
  headers : ∃ p : Protocol, a.headers = p.authHeaders k₁ ∧ b.headers = p.authHeaders k₂
  url : AlikeUrls base k₁ k₂ a.url b.url

theorem alikeUrls_plain {base s : String} (hs : Tail s) :
    AlikeUrls base k₁ k₂ (base ++ s) (base ++ s) := ⟨s, hs, Or.inl ⟨rfl, rfl⟩⟩

theorem alikeUrls_keyed {base s : String} (hs : Tail s) :
    AlikeUrls base k₁ k₂ (Gemini.keyed (base ++ s) k₁) (Gemini.keyed (base ++ s) k₂) :=
  ⟨s, hs, Or.inr ⟨rfl, rfl⟩⟩

theorem chatUrls_alike (p : Protocol) (base model : String) (route : Route) :
    AlikeUrls base k₁ k₂ (p.chatUrl base route model k₁) (p.chatUrl base route model k₂) := by
  rw [chatUrl_eq, chatUrl_eq]
  split
  · exact alikeUrls_keyed (tail_chat p route model)
  · exact alikeUrls_plain (tail_chat p route model)

theorem chatCases_alike (k : ChatCase) :
    Alike c.baseUrl k₁ k₂ ((c.withKey k₁).chatCase k) ((c.withKey k₂).chatCase k) where
  id := rfl
  masked := ⟨rfl, rfl⟩
  check := rfl
  body := rfl
  headers := ⟨k.protocol, rfl, rfl⟩
  url := chatUrls_alike k.protocol c.baseUrl k.model k.route

theorem listing_alike {url₁ url₂ : String} (h : AlikeUrls c.baseUrl k₁ k₂ url₁ url₂)
    (label : String) (kind : Reply.Catalogue) :
    Alike c.baseUrl k₁ k₂ ((c.withKey k₁).listing label url₁ kind)
      ((c.withKey k₂).listing label url₂ kind) where
  id := rfl
  masked := ⟨rfl, rfl⟩
  check := rfl
  body := rfl
  headers := ⟨.openAI, rfl, rfl⟩
  url := h

theorem embedding_alike {url₁ url₂ : String} (h : AlikeUrls c.baseUrl k₁ k₂ url₁ url₂)
    (label : String) (p : Protocol) (body : Json) (kind : Reply.Catalogue) :
    Alike c.baseUrl k₁ k₂ (Config.embedding label url₁ (p.authHeaders k₁) body kind)
      (Config.embedding label url₂ (p.authHeaders k₂) body kind) where
  id := rfl
  masked := ⟨rfl, rfl⟩
  check := rfl
  body := rfl
  headers := ⟨p, rfl, rfl⟩
  url := h

theorem listings_alike : Forall₂ (Alike c.baseUrl k₁ k₂) (c.withKey k₁).listings
    (c.withKey k₂).listings := by
  have hmodels : Tail "/v1/models" := .of_ends (by decide)
  have hgroup : Tail ("/" ++ c.models.groupName ++ "/v1/models") :=
    hmodels.route (.group c.models.groupName)
  have hswitch : Tail "/switch/v1/models" := .of_ends (by decide)
  have htags : Tail "/api/tags" := .of_ends (by decide)
  refine .cons ?_ (.cons ?_ (.cons ?_ (.cons ?_ (.cons ?_ .nil))))
  · exact listing_alike (alikeUrls_plain hmodels) _ _
  · exact listing_alike (alikeUrls_plain htags) _ _
  · exact listing_alike (alikeUrls_keyed (tail_endpoint .gemini)) _ _
  · refine listing_alike ?_ _ _
    have hurl : AlikeUrls c.baseUrl k₁ k₂ _ _ := alikeUrls_plain hgroup
    rw [← String.append_assoc, ← String.append_assoc] at hurl
    exact hurl
  · exact listing_alike (alikeUrls_plain hswitch) _ _

theorem embeddings_alike : Forall₂ (Alike c.baseUrl k₁ k₂) (c.withKey k₁).embeddings
    (c.withKey k₂).embeddings := by
  have hopen : Tail "/v1/embeddings" := .of_ends (by decide)
  have hollama : Tail "/api/embed" := .of_ends (by decide)
  have hgemini : Tail (action c.models.embed ":embedContent") :=
    tail_action _ (endsVisibly_of_getLast (by decide))
  refine .cons ?_ (.cons ?_ (.cons ?_ .nil))
  · exact embedding_alike (alikeUrls_plain hopen) _ .openAI _ _
  · refine embedding_alike ?_ _ .gemini _ _
    rw [embedUrl_eq, embedUrl_eq]
    exact alikeUrls_keyed hgemini
  · exact embedding_alike (alikeUrls_plain hollama) _ .ollama _ _

namespace Plan

theorem probes_alike {all₁ all₂ : List Case} {base : String}
    (h : Forall₂ (Alike base k₁ k₂) all₁ all₂) :
    Forall₂ (Alike base k₁ k₂) (plan.probes all₁) (plan.probes all₂) := by
  refine List.rel_filter (fun a b hab => ?_) h
  have hp : a.id.protocol = b.id.protocol := by rw [hab.id]
  show decide (a.id.protocol ∈ plan.protocols) = true ↔ decide (b.id.protocol ∈ plan.protocols) = true
  rw [hp]

theorem flatMap_forall₂ {α β : Type} {R : β → β → Prop} {f g : α → List β}
    (h : ∀ x, Forall₂ R (f x) (g x)) (xs : List α) : Forall₂ R (xs.flatMap f) (xs.flatMap g) := by
  induction xs with
  | nil => exact .nil
  | cons x xs ih => exact List.rel_append (h x) ih

/-- Case by case, a plan is the same under two keys. -/
theorem cases_alike (plan : Plan) (c : Config) (k₁ k₂ : String) :
    Forall₂ (Alike c.baseUrl k₁ k₂) (plan.cases (c.withKey k₁)) (plan.cases (c.withKey k₂)) := by
  refine flatMap_forall₂ (fun suite => ?_) plan.suites
  cases suite with
  | models => exact probes_alike listings_alike
  | embeddings => exact probes_alike embeddings_alike
  | chat =>
    refine flatMap_forall₂ (fun p => ?_) plan.protocols
    rw [chats_eq, chats_eq, List.forall₂_map_left_iff, List.forall₂_map_right_iff]
    exact List.forall₂_same.mpr fun k _ => chatCases_alike k

/-- A case has at most two headers of its own, so that a run never stops for want of room. -/
theorem sendWithin_case {isFull : Headers → Bool}
    (hfull : ∀ kept : Headers, kept.length < 5 → isFull kept = false) (hc : a ∈ plan.cases c)
    {m : Type → Type} [Monad m] (network : Transport.Network m) (log : Log.Entry → m Unit) :
    Transport.sendWithin isFull network log a.request =
      (do pure (some (← Transport.send network log a.request))) := by
  have halike : Alike c.baseUrl c.target.apiKey c.target.apiKey a a :=
    List.forall₂_same.mp (cases_alike plan c c.target.apiKey c.target.apiKey) a hc
  obtain ⟨p, hheaders, _⟩ := halike.headers
  refine Transport.sendWithin_eq (Transport.hasPlaces_of_length hfull ?_) network log
  rw [Case.request_headers, hheaders]
  cases p <;> simp [Protocol.authHeaders]

end Plan

end Conformance
