import Conformance.Proofs.Reply.Opening

/-! What a chat response says before anything is expected of it. An expectation is met or not by
what is said; it does not matter to any response that says nothing. -/
namespace Conformance

/-- A response was judged by what it says: it passes, or what was expected is wanting. -/
def Verdict.Answered (v : Verdict) : Prop := v.passed ∨ v.fault = some .semantic

namespace Reply

variable {p : Protocol} {e e' : Expectation} {status : Int} {body : String}

/-- What a chat response says, or what is wrong with it whatever was expected. -/
def opened (p : Protocol) (status : Int) (body : String) : Except Complaint Chat := do
  let members ← envelope p status body
  Chat.ofMembers p members

theorem chatVerdict_eq_judge :
    chatVerdict p e status body = .ofExcept (opened p status body >>= Chat.judge p e) := by
  unfold chatVerdict opened
  cases envelope p status body <;> rfl

theorem chatVerdict_of_unopened {c : Complaint} (h : opened p status body = .error c) :
    chatVerdict p e status body = c.verdict := by
  rw [chatVerdict_eq_judge, h]
  rfl

theorem chatVerdict_of_opened {chat : Chat} (h : opened p status body = .ok chat) :
    chatVerdict p e status body = .ofExcept (chat.judge p e) := by
  rw [chatVerdict_eq_judge, h]
  rfl

theorem answered_judge (chat : Chat) : (Verdict.ofExcept (chat.judge p e)).Answered := by
  cases hj : chat.judge p e with
  | error c => exact Or.inr (congrArg some (judge_fault chat c hj))
  | ok v =>
    obtain ⟨_, _, rfl⟩ := judge_pass chat v hj
    exact Or.inl rfl

/-- Two expectations come to one verdict, or the response was judged by what it says. -/
theorem chatVerdict_cases (p : Protocol) (e e' : Expectation) (status : Int) (body : String) :
    chatVerdict p e status body = chatVerdict p e' status body ∨
      (chatVerdict p e status body).Answered ∧ (chatVerdict p e' status body).Answered := by
  cases ho : opened p status body with
  | error c =>
    left
    rw [chatVerdict_of_unopened ho, chatVerdict_of_unopened ho]
  | ok chat =>
    right
    rw [chatVerdict_of_opened ho, chatVerdict_of_opened ho]
    exact ⟨answered_judge chat, answered_judge chat⟩

/-- Only where something expected is wanting does the expectation show in a fault. -/
theorem chatVerdict_eq_of_fault {f : Fault} (hf : (chatVerdict p e status body).fault = some f)
    (hn : f ≠ .semantic) (e' : Expectation) :
    chatVerdict p e status body = chatVerdict p e' status body := by
  obtain heq | ⟨ha, _⟩ := chatVerdict_cases p e e' status body
  · exact heq
  · obtain hp | hs := ha
    · rw [(passed_iff_fault_eq_none chatVerdict_settled).mp hp] at hf
      cases hf
    · rw [hs] at hf
      exact absurd (Option.some.inj hf).symm hn

end Reply

end Conformance
