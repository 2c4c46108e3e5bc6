import Conformance.Proofs.Reply.Opening

/-! Each fault of a chat verdict stands for one kind of response, and every response is of one
kind. -/
namespace Conformance.Reply

open Json (Members)

variable {p q : Protocol} {members : Members}

/-- `q` is the first protocol, in the order in which they are tried, that is not the expected one
and has left its signature. -/
def FirstForeign (expected : Protocol) (members : Members) (q : Protocol) : Prop :=
  q ≠ expected ∧ q.hasSignature members ∧
    ∃ before after, [Protocol.openAI, .claude, .ollama, .gemini] = before ++ q :: after ∧
      ∀ r ∈ before, r ≠ expected → r.hasSignature members = false

theorem foreignTo_eq_some_iff : foreignTo p members = some q ↔ FirstForeign p members q := by
  simp only [foreignTo, List.find?_eq_some_iff_append, FirstForeign, Protocol.all,
    decide_eq_true_eq, Bool.not_eq_true', decide_eq_false_iff_not, not_and, Bool.not_eq_true]
  constructor
  · rintro ⟨⟨hne, hs⟩, before, after, heq, hb⟩
    exact ⟨hne, hs, before, after, heq, hb⟩
  · rintro ⟨hne, hs, before, after, heq, hb⟩
    exact ⟨⟨hne, hs⟩, before, after, heq, hb⟩

theorem foreignTo_eq_none_iff :
    foreignTo p members = none ↔ ∀ q, q ≠ p → q.hasSignature members = false := by
  simp only [foreignTo, List.find?_eq_none, decide_eq_true_eq, not_and, Bool.not_eq_true]
  exact ⟨fun h q hq => h q (Protocol.mem_all q) hq, fun h q _ hq => h q hq⟩

/-- JSON in which nothing points to any protocol: no object, or one without the expected envelope
field and without a signature of another protocol. -/
def Shapeless (p : Protocol) (body : String) : Prop :=
  (∃ v, Json.read body = .ok v ∧ ∀ members, v ≠ .object members) ∨
    ∃ members : Members, Json.read body = .ok (.object members) ∧
      members.get? p.envelopeField = none ∧ ∀ q, q ≠ p → q.hasSignature members = false

/-- An object without the expected envelope field but with a signature of another protocol. -/
def Foreign (p : Protocol) (body : String) : Prop :=
  ∃ members : Members, Json.read body = .ok (.object members) ∧
    members.get? p.envelopeField = none ∧ ∃ q, q ≠ p ∧ q.hasSignature members

/-- A foreign object that `q` is the first to have signed. -/
def SignedBy (p q : Protocol) (body : String) : Prop :=
  ∃ members : Members, Json.read body = .ok (.object members) ∧
    members.get? p.envelopeField = none ∧ FirstForeign p members q

/-- No JSON, or an object whose envelope field is there but holds something untyped. -/
def Undecodable (p : Protocol) (body : String) : Prop :=
  (∃ cause, Json.read body = .error cause) ∨
    ∃ (members : Members) (value : Json), Json.read body = .ok (.object members) ∧
      members.get? p.envelopeField = some value ∧ ∃ cause, Chat.typed p value = .error cause

/-- An object whose envelope field holds what it should. -/
def Decodable (p : Protocol) (body : String) : Prop :=
  ∃ (members : Members) (value : Json), Json.read body = .ok (.object members) ∧
    members.get? p.envelopeField = some value ∧ ∃ answer, Chat.typed p value = .ok answer

/-- The four kinds leave nothing out. -/
theorem body_kinds (p : Protocol) (body : String) :
    Shapeless p body ∨ Foreign p body ∨ Undecodable p body ∨ Decodable p body := by
  cases hr : Json.read body with
  | error cause => exact Or.inr (Or.inr (Or.inl (Or.inl ⟨cause, hr⟩)))
  | ok v =>
    by_cases ho : ∃ members : Members, v = .object members
    · obtain ⟨members, rfl⟩ := ho
      cases hv : members.get? p.envelopeField with
      | none =>
        by_cases hs : ∃ q, q ≠ p ∧ q.hasSignature members
        · exact Or.inr (Or.inl ⟨members, hr, hv, hs⟩)
        · have hs : ∀ q, q ≠ p → q.hasSignature members = false := by simpa using hs
          exact Or.inl (Or.inr ⟨members, hr, hv, hs⟩)
      | some value =>
        right; right
        cases ht : Chat.typed p value with
        | error cause => exact Or.inl (Or.inr ⟨members, value, hr, hv, cause, ht⟩)
        | ok answer => exact Or.inr ⟨members, value, hr, hv, answer, ht⟩
    · exact Or.inl (Or.inl ⟨v, hr, fun members he => ho ⟨members, he⟩⟩)

variable {e : Expectation} {body : String}

theorem Shapeless.fault (h : Shapeless p body) :
    (chatVerdict p e 200 body).fault = some .shape := by
  rcases h with ⟨v, hr, hv⟩ | ⟨members, hr, hl, hs⟩
  · rw [chatVerdict_notObject hr hv]
    rfl
  · rw [chatVerdict_missing hr hl (foreignTo_eq_none_iff.mpr hs)]
    rfl

theorem SignedBy.verdict (h : SignedBy p q body) :
    chatVerdict p e 200 body = (Complaint.foreign q p).verdict := by
  obtain ⟨members, hr, hl, hf⟩ := h
  exact chatVerdict_foreign hr hl (foreignTo_eq_some_iff.mpr hf)

theorem Foreign.signedBy (h : Foreign p body) : ∃ q, SignedBy p q body := by
  obtain ⟨members, hr, hl, r, hne, hs⟩ := h
  cases hf : foreignTo p members with
  | none => simp [foreignTo_eq_none_iff.mp hf r hne] at hs
  | some q => exact ⟨q, members, hr, hl, foreignTo_eq_some_iff.mp hf⟩

theorem Foreign.fault (h : Foreign p body) :
    (chatVerdict p e 200 body).fault = some .protocolMismatch := by
  obtain ⟨q, hq⟩ := h.signedBy
  rw [hq.verdict]
  rfl

/-- The message names both protocols. -/
theorem SignedBy.message (h : SignedBy p q body) : (chatVerdict p e 200 body).message =
    "Protocol Error: protocol mismatch, received " ++ q.displayName ++
      " format but expected " ++ p.displayName := by
  rw [h.verdict]
  cases q <;> cases p <;> rfl

theorem Undecodable.fault (h : Undecodable p body) :
    (chatVerdict p e 200 body).fault = some .decode := by
  rcases h with ⟨cause, hr⟩ | ⟨members, value, hr, hv, cause, ht⟩
  · rw [chatVerdict_notJson hr]
    rfl
  · rw [chatVerdict_malformed hr hv ht]
    rfl

theorem Decodable.fault (h : Decodable p body) :
    (chatVerdict p e 200 body).fault = none ∨
      (chatVerdict p e 200 body).fault = some .semantic := by
  obtain ⟨members, value, hr, hv, answer, ht⟩ := h
  exact chatVerdict_typed_fault hr hv ht

/-- The faults that the verdict on a body can have, each with the kind of body that has it. -/
inductive Classified (p : Protocol) (body : String) : Option Fault → Prop where
  | shapeless (h : Shapeless p body) : Classified p body (some .shape)
  | foreign (h : Foreign p body) : Classified p body (some .protocolMismatch)
  | undecodable (h : Undecodable p body) : Classified p body (some .decode)
  | semantic (h : Decodable p body) : Classified p body (some .semantic)
  | passed (h : Decodable p body) : Classified p body none

theorem classified (p : Protocol) (e : Expectation) (body : String) :
    Classified p body (chatVerdict p e 200 body).fault := by
  rcases body_kinds p body with h | h | h | h
  · rw [h.fault]
    exact .shapeless h
  · rw [h.fault]
    exact .foreign h
  · rw [h.fault]
    exact .undecodable h
  · rcases h.fault (e := e) with hf | hf <;> rw [hf]
    · exact .passed h
    · exact .semantic h

theorem Classified.of_fault {f : Option Fault} (hf : (chatVerdict p e 200 body).fault = f) :
    Classified p body f := by
  rw [← hf]
  exact classified p e body

theorem fault_eq_shape_iff :
    (chatVerdict p e 200 body).fault = some .shape ↔ Shapeless p body := by
  refine ⟨fun hf => ?_, Shapeless.fault⟩
  cases Classified.of_fault hf
  assumption

theorem fault_eq_protocolMismatch_iff :
    (chatVerdict p e 200 body).fault = some .protocolMismatch ↔ Foreign p body := by
  refine ⟨fun hf => ?_, Foreign.fault⟩
  cases Classified.of_fault hf
  assumption

theorem fault_eq_decode_iff :
    (chatVerdict p e 200 body).fault = some .decode ↔ Undecodable p body := by
  refine ⟨fun hf => ?_, Undecodable.fault⟩
  cases Classified.of_fault hf
  assumption

theorem passed_or_semantic_iff :
    ((chatVerdict p e 200 body).passed ∨ (chatVerdict p e 200 body).fault = some .semantic) ↔
      Decodable p body := by
  rw [passed_iff_fault_eq_none chatVerdict_settled]
  refine ⟨fun hf => ?_, Decodable.fault⟩
  rcases hf with hf | hf <;> cases Classified.of_fault hf <;> assumption

/-- Without a response, or with another status, the body does not matter. -/
theorem fault_of_ne_200 {status : Int} (hs : status ≠ 200) :
    (chatVerdict p e status body).fault =
      some (if status = -1 then Fault.transport else Fault.status) := by
  by_cases hn : status = -1
  · subst hn
    exact congrArg Verdict.fault chatVerdict_noResponse
  · rw [chatVerdict_badStatus hn hs, if_neg hn]
    rfl

theorem fault_eq_transport_iff {status : Int} :
    (chatVerdict p e status body).fault = some .transport ↔ status = -1 := by
  by_cases hs : status = 200
  · subst hs
    constructor
    · intro hf
      cases Classified.of_fault hf
    · intro hn
      simp at hn
  · rw [fault_of_ne_200 hs]
    by_cases hn : status = -1 <;> simp [hn]

theorem fault_eq_status_iff {status : Int} :
    (chatVerdict p e status body).fault = some .status ↔ status ≠ -1 ∧ status ≠ 200 := by
  by_cases hs : status = 200
  · subst hs
    constructor
    · intro hf
      cases Classified.of_fault hf
    · intro hn
      exact absurd rfl hn.2
  · rw [fault_of_ne_200 hs]
    by_cases hn : status = -1 <;> simp [hn, hs]

/-- Where the expected field is there, a body is decodable or not, and nothing else matters. -/
theorem own_field_faults (hr : Json.read body = .ok (.object members))
    (hc : members.contains p.envelopeField) :
    (chatVerdict p e 200 body).fault ≠ some .shape ∧
      (chatVerdict p e 200 body).fault ≠ some .protocolMismatch := by
  rw [Members.contains_eq_isSome] at hc
  obtain ⟨value, hv⟩ := Option.isSome_iff_exists.mp hc
  cases ht : Chat.typed p value with
  | error cause =>
    have hf : (chatVerdict p e 200 body).fault = some .decode :=
      Undecodable.fault (Or.inr ⟨members, value, hr, hv, cause, ht⟩)
    simp [hf]
  | ok answer => rcases chatVerdict_typed_fault (e := e) hr hv ht with hf | hf <;> simp [hf]

/-- Every fault of a chat verdict stands for exactly one kind of response. -/
theorem chatVerdict_fault_exact (p : Protocol) (e : Expectation) (status : Int) (body : String) :
    ((chatVerdict p e status body).fault = some .transport ↔ status = -1) ∧
    ((chatVerdict p e status body).fault = some .status ↔ status ≠ -1 ∧ status ≠ 200) ∧
    ((chatVerdict p e 200 body).fault = some .shape ↔ Shapeless p body) ∧
    ((chatVerdict p e 200 body).fault = some .protocolMismatch ↔ Foreign p body) ∧
    (Foreign p body → ∃ q, SignedBy p q body) ∧
    (∀ q, SignedBy p q body → (chatVerdict p e 200 body).message =
      "Protocol Error: protocol mismatch, received " ++ q.displayName ++
        " format but expected " ++ p.displayName) ∧
    ((chatVerdict p e 200 body).fault = some .decode ↔ Undecodable p body) ∧
    ((chatVerdict p e 200 body).passed ∨ (chatVerdict p e 200 body).fault = some .semantic ↔
      ¬ (Shapeless p body ∨ Foreign p body ∨ Undecodable p body)) ∧
    (∀ members : Members, Json.read body = .ok (.object members) →
      members.contains p.envelopeField →
        (chatVerdict p e 200 body).fault ≠ some .shape ∧
        (chatVerdict p e 200 body).fault ≠ some .protocolMismatch) := by
  refine ⟨fault_eq_transport_iff, fault_eq_status_iff, fault_eq_shape_iff,
    fault_eq_protocolMismatch_iff, Foreign.signedBy, fun q => SignedBy.message,
    fault_eq_decode_iff, ?_, fun members => own_field_faults⟩
  rw [passed_or_semantic_iff]
  constructor
  · rintro hd (h | h | h)
    all_goals
      have hf := h.fault (e := e)
      rcases hd.fault (e := e) with hn | hn <;> rw [hn] at hf <;> cases hf
  · intro hn
    rcases body_kinds p body with h | h | h | h
    · exact (hn (Or.inl h)).elim
    · exact (hn (Or.inr (Or.inl h))).elim
    · exact (hn (Or.inr (Or.inr h))).elim
    · exact h

end Conformance.Reply
