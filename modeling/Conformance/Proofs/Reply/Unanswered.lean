import Conformance.Proofs.Reply.Wording

/-! A response that is no success, or none at all, is not looked into. All checks say the same of it,
and of its body only the first hundred characters count. -/
namespace Conformance

variable {status : Int} {body : String}

/-- What a message begins with where there was no success. -/
def statusHeading (status : Int) : String :=
  "HTTP " ++ toString status ++ if status = -1 then " (no response)" else ""

theorem statusHeading_noResponse :
    "HTTP -1 (no response): " = statusHeading (-1) ++ ": " := by
  cbv

theorem verdict_unanswered :
    (unanswered status body).verdict =
      .fail (if status = -1 then .transport else .status)
        (statusHeading status ++ ": " ++ String.ofList (body.toList.take 100)) := by
  rw [← Text.truncate_eq]
  by_cases hn : status = -1
  · subst hn
    exact congrArg (fun heading : String =>
      Verdict.fail .transport (heading ++ Text.truncate 100 body)) statusHeading_noResponse
  · have hne : status ≠ noResponse := hn
    rw [unanswered, statusHeading, if_neg hne, if_neg hn, if_neg hn, String.append_empty]
    rfl

/-- Whatever is put in front of two texts, they can be told apart behind it. -/
theorem message_inj (status : Int) {shown shown' : List Char} :
    statusHeading status ++ ": " ++ String.ofList shown =
      statusHeading status ++ ": " ++ String.ofList shown' ↔ shown = shown' := by
  rw [String.ext_iff]
  simp only [String.toList_append, String.toList_ofList, List.append_cancel_left_eq]

/-- Where there was no success, every check comes to the same failure: its fault and the beginning of
its message depend on the status alone, the rest is what the body begins with. Two checks agree on two
bodies exactly if these begin alike, whatever else is in them. -/
theorem status_gate (hs : status ≠ 200) (check check' : Check) (body body' : String) :
    check.verdict status body =
      .fail (if status = -1 then .transport else .status)
        (statusHeading status ++ ": " ++ String.ofList (body.toList.take 100)) ∧
    (check.verdict status body = check'.verdict status body' ↔
      body.toList.take 100 = body'.toList.take 100) := by
  rw [verdict_of_ne_200 hs, verdict_of_ne_200 hs, verdict_unanswered, verdict_unanswered]
  refine ⟨rfl, ?_⟩
  simp only [Verdict.fail, Verdict.mk.injEq, true_and, and_true]
  exact message_inj status

/-- More than a hundred characters, none of which takes up one byte only. -/
def longPage (last : Char) : String :=
  String.ofList (List.replicate 100 'é' ++ [last])

theorem take_longPage (last : Char) :
    (longPage last).toList.take 100 = List.replicate 100 'é' := by
  rw [longPage, String.toList_ofList, List.take_left' List.length_replicate]

/-- What comes behind the hundredth character is seen by no check. -/
theorem status_gate_longPage :
    (503 : Int) ≠ 200 ∧ longPage 'a' ≠ longPage 'b' ∧
      (Check.chat .gemini .toolCall).verdict 503 (longPage 'a') =
        (Check.models .openAI).verdict 503 (longPage 'b') := by
  refine ⟨by decide, ?_, ?_⟩
  · intro h
    have hlast := List.append_cancel_left (String.ofList_injective h)
    exact absurd hlast (by decide)
  · refine ((status_gate (by decide) _ _ _ _).2).mpr ?_
    rw [take_longPage, take_longPage]

end Conformance
