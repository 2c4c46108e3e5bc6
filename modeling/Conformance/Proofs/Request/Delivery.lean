import Conformance.Proofs.Outcome
import Conformance.Proofs.Pairs
import Conformance.Request.Address
import Conformance.Transport.Exchange
import Mathlib.Data.List.Forall2

/-! Requests that can go out: what is made of their addresses and of the headers that carry a key. -/
namespace Conformance.Transport

open Outcome
open List (Forall₂)

variable {r : Request} {d : Delivery} {u : Url}

/-- An address that a request may go out to. -/
def Reaches (u : Url) : Prop := isWeb u = true ∧ fitsRequestLine u = true

/-- What is made of a request once its headers and its address are known. -/
def dispatch (r : Request) (headers : Headers) (u : Url) : Except Failure Delivery :=
  if isWeb u = false then .error (.request "builder error: URL scheme is not allowed")
  else if fitsRequestLine u = false then .error (.request "builder error: invalid URI")
  else .ok ⟨r.method, { u with fragment := none }, headers, bodyText r.body⟩

theorem prepare_eq {headers : Headers} (hb : build r.headers r.body = .ok headers)
    (hr : Url.read r.url = .ok u) : prepare r = dispatch r headers u := by
  simp only [prepare, hb, hr, dispatch]
  cases hw : isWeb u with
  | false => rfl
  | true =>
    cases hf : fitsRequestLine u with
    | false => rfl
    | true => rfl

theorem dispatch_eq_ok {headers : Headers} : dispatch r headers u = .ok d ↔ Reaches u ∧
    d = ⟨r.method, { u with fragment := none }, headers, bodyText r.body⟩ := by
  rw [dispatch, Reaches]
  split
  · simp [*]
  · split
    · simp [*]
    · simp only [Bool.not_eq_false] at *
      simp only [*, and_self, true_and, Except.ok.injEq]
      exact eq_comm

theorem prepare_unread {headers : Headers} {cause : Url.Malformed}
    (hb : build r.headers r.body = .ok headers) (hr : Url.read r.url = .error cause) :
    prepare r = .error (.request ("builder error: " ++ cause.message)) := by
  rw [prepare, hb, hr]
  rfl

/-- Nothing but an address that cannot be read is refused with a reason for that. -/
theorem unread_of_prepare {cause : Url.Malformed}
    (h : prepare r = .error (.request ("builder error: " ++ cause.message))) (v : Url) :
    Url.read r.url ≠ .ok v := by
  intro hr
  cases hb : build r.headers r.body with
  | error name =>
    rw [prepare, hb] at h
    cases h
  | ok headers =>
    rw [prepare_eq hb hr, dispatch] at h
    split at h
    · have hreason := Failure.request.inj (Except.error.inj h)
      cases cause <;> exact absurd hreason (by decide)
    · split at h
      · have hreason := Failure.request.inj (Except.error.inj h)
        cases cause <;> exact absurd hreason (by decide)
      · cases h

/-- What goes out of a request, and that nothing was refused. -/
theorem prepare_eq_ok : prepare r = .ok d ↔ ∃ headers v, build r.headers r.body = .ok headers ∧
    Url.read r.url = .ok v ∧ Reaches v ∧
    d = ⟨r.method, { v with fragment := none }, headers, bodyText r.body⟩ := by
  constructor
  · intro h
    have hp := h
    rw [prepare] at hp
    obtain ⟨headers, hb, hp⟩ := bind_eq_ok.mp hp
    rw [mapError_eq_ok] at hb
    cases hr : Url.read r.url with
    | error cause =>
      rw [hr] at hp
      cases hp
    | ok v =>
      rw [prepare_eq hb hr] at h
      exact ⟨headers, v, hb, rfl, dispatch_eq_ok.mp h⟩
  · rintro ⟨headers, v, hb, hr, hd⟩
    rw [prepare_eq hb hr]
    exact dispatch_eq_ok.mpr hd

/-! ### Headers -/

/-- The headers of which a key may be the value. -/
def keyHeaders : List String := ["authorization", "x-api-key"]

/-- One header, of which the value is the same unless it holds a key. -/
def SameHeader (a b : String × String) : Prop := a.1 = b.1 ∧ (a.2 = b.2 ∨ a.1 ∈ keyHeaders)

theorem setHeader_eq (name value : String) (kept : Headers) :
    setHeader name value kept = Pairs.assign name value kept := by
  induction kept with
  | nil => rfl
  | cons h rest ih => rw [setHeader, Pairs.assign, ih]

variable {kept₁ kept₂ : Headers} {key₁ key₂ : String}

theorem lookup_same {name : String} (hn : name ∉ keyHeaders) (h : Forall₂ SameHeader kept₁ kept₂) :
    kept₁.lookup name = kept₂.lookup name := by
  induction h with
  | nil => rfl
  | @cons a b _ _ hab _ ih =>
    obtain ⟨n, v⟩ := a
    obtain ⟨n', v'⟩ := b
    obtain ⟨rfl, hvalue⟩ := hab
    rw [Pairs.lookup_cons, Pairs.lookup_cons, ih]
    by_cases he : name = n
    · subst he
      obtain rfl : v = v' := hvalue.resolve_right hn
      rfl
    · rw [if_neg he, if_neg he]

/-- Headers of the same names stay so when one of them is set. -/
theorem setHeader_rel {R : String × String → String × String → Prop}
    (hR : ∀ a b, R a b → a.1 = b.1) {name value₁ value₂ : String} (h : Forall₂ R kept₁ kept₂)
    (hv : R (name, value₁) (name, value₂)) :
    Forall₂ R (setHeader name value₁ kept₁) (setHeader name value₂ kept₂) := by
  induction h with
  | nil => exact .cons hv .nil
  | @cons a b rest₁ rest₂ hab hrest ih =>
    have hnames : a.1 = b.1 := hR a b hab
    rw [setHeader, setHeader, ← hnames]
    by_cases hn : a.1 = name
    · rw [if_pos hn, if_pos hn, hn]
      exact .cons hv hrest
    · rw [if_neg hn, if_neg hn]
      refine .cons ?_ ih
      rwa [show (a.1, b.2) = b from Prod.ext hnames rfl]

theorem foldl_setHeader_same (fixed : Headers) (h : Forall₂ SameHeader kept₁ kept₂) :
    Forall₂ SameHeader (fixed.foldl (fun kept (name, value) => setHeader name value kept) kept₁)
      (fixed.foldl (fun kept (name, value) => setHeader name value kept) kept₂) := by
  induction fixed generalizing kept₁ kept₂ with
  | nil => exact h
  | cons a fixed ih => exact ih (setHeader_rel (fun _ _ h => h.1) h ⟨rfl, Or.inl rfl⟩)

theorem isValue_bearer (h : isValue key₁ = true) : isValue ("Bearer " ++ key₁) = true := by
  rw [isValue, String.toList_append, List.all_append, Bool.and_eq_true]
  exact ⟨by decide, h⟩

/-- The headers that carry a key differ in nothing but the key. -/
theorem merge_authHeaders (p : Protocol) (h₁ : isValue key₁ = true) (h₂ : isValue key₂ = true) :
    ∃ kept₁ kept₂, merge [] (p.authHeaders key₁) = .ok kept₁ ∧
      merge [] (p.authHeaders key₂) = .ok kept₂ ∧ Forall₂ SameHeader kept₁ kept₂ := by
  have hbearer : ∀ {key : String}, isValue key = true →
      merge [] [("Authorization", "Bearer " ++ key)] =
        .ok [("authorization", "Bearer " ++ key)] := by
    intro key hk
    rw [merge, isValue_bearer hk, Bool.and_true, if_pos (by decide)]
    rfl
  have hversion : ∀ {key : String}, isValue key = true →
      merge [] (Protocol.claude.authHeaders key) =
        .ok [("anthropic-version", Protocol.claudeVersion), ("x-api-key", key)] := by
    intro key hk
    rw [Protocol.authHeaders, merge, if_pos (by decide), merge, hk, Bool.and_true,
      if_pos (by decide)]
    rfl
  have hsame : Forall₂ SameHeader [("authorization", "Bearer " ++ key₁)]
      [("authorization", "Bearer " ++ key₂)] :=
    .cons ⟨rfl, Or.inr (List.mem_cons_self)⟩ .nil
  cases p with
  | openAI => exact ⟨_, _, hbearer h₁, hbearer h₂, hsame⟩
  | ollama => exact ⟨_, _, hbearer h₁, hbearer h₂, hsame⟩
  | claude =>
    refine ⟨_, _, hversion h₁, hversion h₂, .cons ⟨rfl, Or.inl rfl⟩ (.cons ⟨rfl, ?_⟩ .nil)⟩
    exact Or.inr (List.mem_cons_of_mem _ List.mem_cons_self)
  | gemini => exact ⟨[], [], rfl, rfl, .nil⟩

theorem build_authHeaders (p : Protocol) (body : Option Body) (h₁ : isValue key₁ = true)
    (h₂ : isValue key₂ = true) :
    ∃ headers₁ headers₂, build (p.authHeaders key₁) body = .ok headers₁ ∧
      build (p.authHeaders key₂) body = .ok headers₂ ∧ Forall₂ SameHeader headers₁ headers₂ := by
  obtain ⟨kept₁, kept₂, hm₁, hm₂, hsame⟩ := merge_authHeaders p h₁ h₂
  refine ⟨_, _, ?_, ?_, foldl_setHeader_same (fixedHeaders body) hsame⟩
  · rw [build, hm₁]
    rfl
  · rw [build, hm₂]
    rfl

end Conformance.Transport
