import Conformance.Proofs.Reply.Opening
import Conformance.Sweep.Case

/-! Every case is settled by a validator. None ends for want of a request that can be sent. -/
namespace Conformance

open Outcome
open Reply (Settled settled_ofExcept)

variable {kind : Reply.Catalogue} {status : Int} {body : String}

theorem modelsVerdict_settled : Settled (Reply.modelsVerdict kind status body) := by
  refine settled_ofExcept fun v hv => ?_
  simp only [bind_eq_ok] at hv
  obtain ⟨_, _, _, _, models, _, hp⟩ := hv
  cases hp
  exact ⟨_, _, rfl⟩

theorem embeddingVerdict_settled : Settled (Reply.embeddingVerdict kind status body) := by
  refine settled_ofExcept fun v hv => ?_
  simp only [bind_eq_ok] at hv
  obtain ⟨_, _, _, _, vector, _, hp⟩ := hv
  split at hp
  · cases hp
  · cases hp
    exact ⟨_, _, rfl⟩

theorem verdict_settled (check : Check) : Settled (check.verdict status body) := by
  cases check with
  | chat p e => exact Reply.chatVerdict_settled
  | models kind => exact modelsVerdict_settled
  | embedding kind => exact embeddingVerdict_settled

/-- A complaint about a body that could not be read begins in a way of its own. -/
theorem message_head {c : Complaint} (h : c.fault = .decode) :
    c.message.toList.head? = some 'I' ∨ c.message.toList.head? = some 'M' := by
  cases c with
  | notJson p cause =>
    left
    unfold Complaint.message
    simp only [String.toList_append]
    rfl
  | malformed p cause =>
    right
    unfold Complaint.message
    simp only [String.toList_append]
    rfl
  | _ => cases h

theorem settled_ne_unencoded {v : Verdict} (h : Settled v) (why : String) : v ≠ unencoded why := by
  intro hv
  cases h with
  | pass message x => cases congrArg Verdict.passed hv
  | complaint c =>
    have hf : c.fault = .decode := Option.some.inj (congrArg Verdict.fault hv)
    have hm : c.message = "Failed to encode request: " ++ why := congrArg Verdict.message hv
    have hw : c.message.toList.head? = some 'F' := by
      rw [hm, String.toList_append]
      rfl
    obtain hi | hi := message_head hf
    · cases hw.symm.trans hi
    · cases hw.symm.trans hi

end Conformance
