import Conformance.Proofs.Reply.Opened
import Conformance.Proofs.Text.OneLine
import Mathlib.Data.List.Forall2
import Mathlib.Data.List.TakeDrop

/-! What is shown of a long text: its first characters, none of them cut in two, on one line. A
verdict that passes on a text shows so much of it and keeps all of it. -/
namespace Conformance

namespace Text

/-- Where a text is cut that is shortened to `n` characters; its end, if it is no longer. -/
def cutPlace (n : Nat) (s : String) : String.Pos.Raw :=
  ⟨(startFrom 0 n s.toList).getD s.utf8ByteSize⟩

/-- The beginning of a text, as far as `n` characters reach. -/
structure Shortened (n : Nat) (s short : String) : Prop where
  boundary : (cutPlace n s).IsValid s
  bytes : short.toByteArray = s.toByteArray.extract 0 (cutPlace n s).byteIdx
  begins : short.toList <+: s.toList
  length_eq : short.length = min n s.length

/-- A character, and the one that is shown for it on one line. -/
inductive FlattenedAs : Char → Char → Prop where
  | blank {c : Char} (h : c = '\r' ∨ c = '\n') : FlattenedAs c ' '
  | kept {c : Char} (h : ¬ (c = '\r' ∨ c = '\n')) : FlattenedAs c c

/-- A text, and what is shown of it on one line. -/
structure Flattened (s flat : String) : Prop where
  length_eq : flat.length = s.length
  oneByOne : List.Forall₂ FlattenedAs s.toList flat.toList
  unbroken : '\r' ∉ flat.toList ∧ '\n' ∉ flat.toList

variable {n : Nat} {s : String}

theorem byteCount_eq (cs : List Char) : byteCount cs = (String.ofList cs).utf8ByteSize := by
  induction cs with
  | nil => rfl
  | cons c cs ih =>
    rw [byteCount, ih, String.ofList_cons, String.utf8ByteSize_append, String.utf8ByteSize_singleton]

/-- The search for the next character stops behind the bytes of those that are kept. -/
theorem byteIdx_cutPlace (n : Nat) (s : String) :
    (cutPlace n s).byteIdx = (truncate n s).utf8ByteSize := by
  rw [truncate_eq, ← byteCount_eq, cutPlace]
  by_cases h : n < s.toList.length
  · rw [startFrom_of_lt h, Option.getD_some, Nat.zero_add]
  · have hn : s.toList.length ≤ n := Nat.le_of_not_lt h
    rw [startFrom_of_length_le hn, Option.getD_none, List.take_of_length_le hn, byteCount_eq,
      String.ofList_toList]

theorem truncate_append_drop (n : Nat) (s : String) :
    truncate n s ++ String.ofList (s.toList.drop n) = s := by
  rw [truncate_eq, ← String.ofList_append, List.take_append_drop, String.ofList_toList]

theorem shortened_truncate (n : Nat) (s : String) : Shortened n s (truncate n s) where
  boundary := by
    have hbytes := String.Pos.Raw.ext (byteIdx_cutPlace n s)
    exact String.Pos.Raw.isValid_iff_exists_append.mpr
      ⟨_, _, (truncate_append_drop n s).symm, hbytes⟩
  bytes := by
    have hs := congrArg String.toByteArray (truncate_append_drop n s)
    rw [String.toByteArray_append] at hs
    rw [byteIdx_cutPlace, ← hs]
    exact (ByteArray.extract_append_eq_left rfl).symm
  begins := by
    rw [toList_truncate]
    exact List.take_prefix n s.toList
  length_eq := by
    rw [← String.length_toList, toList_truncate, List.length_take, String.length_toList]

theorem truncate_truncate (m n : Nat) (s : String) :
    truncate n (truncate m s) = truncate (min m n) s := by
  rw [← String.toList_inj, toList_truncate, toList_truncate, toList_truncate, List.take_take,
    Nat.min_comm]

theorem truncate_eq_self_iff : truncate n s = s ↔ s.length ≤ n := by
  rw [← String.toList_inj, toList_truncate, List.take_eq_self_iff, String.length_toList]

theorem flattenedAs_flattenBreak (c : Char) : FlattenedAs c (flattenBreak c) := by
  unfold flattenBreak
  split
  · rename_i h
    exact .blank h
  · rename_i h
    exact .kept h

theorem flattened_snippet (n : Nat) (s : String) : Flattened (truncate n s) (snippet n s) where
  length_eq := by
    rw [← String.length_toList, ← String.length_toList, toList_snippet, toList_truncate,
      List.length_map]
  oneByOne := by
    rw [toList_snippet, toList_truncate, List.forall₂_map_right_iff, List.forall₂_same]
    exact fun c _ => flattenedAs_flattenBreak c
  unbroken := by
    have h := oneLine_snippet n s
    exact ⟨fun hr => h _ hr (by decide), fun hn => h _ hn (by decide)⟩

theorem length_snippet_le (n : Nat) (s : String) : (snippet n s).length ≤ n := by
  rw [(flattened_snippet n s).length_eq, (shortened_truncate n s).length_eq]
  exact Nat.min_le_left n s.length

end Text

/-- A verdict that passes on a text: one line shows how the text begins, and all of it is kept. -/
structure Verdict.Previews (v : Verdict) (text : String) : Prop where
  message_eq : v.message = "Text: " ++ Text.snippet 25 text ++ "..."
  oneLine : Text.OneLine v.message
  length_le : v.message.length ≤ 34
  extracted_eq : v.extracted = some (.text text)

namespace Reply

variable {p : Protocol} {status : Int} {body : String} {said : Option String}

theorem previews_pass (text : String) :
    (Verdict.pass ("Text: " ++ Text.snippet textPreview text ++ "...") (.text text)).Previews
      text where
  message_eq := rfl
  oneLine := (Text.Lacks.append (by decide) (Text.oneLine_snippet _ _)).append (by decide)
  length_le := by
    have hshown : (Text.snippet textPreview text).length ≤ 25 := Text.length_snippet_le _ _
    have hhead : "Text: ".length = 6 := by decide
    have htail : "...".length = 3 := by decide
    simp only [Verdict.pass, String.length_append]
    omega
  extracted_eq := rfl

theorem passed_judgeText_iff : (Verdict.ofExcept (judgeText said)).passed ↔
    ∃ text, said = some text ∧ text ≠ "" ∧ (Verdict.ofExcept (judgeText said)).Previews text := by
  constructor
  · intro h
    cases hj : judgeText said with
    | error c =>
      rw [hj] at h
      cases h
    | ok v =>
      obtain ⟨text, hs, hn, rfl⟩ := judgeText_eq_ok.mp hj
      exact ⟨text, hs, hn, previews_pass text⟩
  · rintro ⟨text, rfl, hn, _⟩
    rw [judgeText_eq_ok.mpr ⟨text, rfl, hn, rfl⟩]
    rfl

theorem passed_text_iff : (chatVerdict p .text status body).passed ↔
    ∃ chat text, opened p status body = .ok chat ∧ chat.text = some text ∧ text ≠ "" ∧
      (chatVerdict p .text status body).Previews text := by
  cases ho : opened p status body with
  | error c =>
    rw [chatVerdict_of_unopened ho]
    exact iff_of_false nofun fun ⟨_, _, he, _⟩ => nomatch he
  | ok chat =>
    rw [chatVerdict_of_opened ho]
    refine passed_judgeText_iff.trans ⟨?_, ?_⟩
    · rintro ⟨text, ht, hn, hp⟩
      exact ⟨chat, text, rfl, ht, hn, hp⟩
    · rintro ⟨_, text, he, ht, hn, hp⟩
      cases he
      exact ⟨text, ht, hn, hp⟩

/-- A text is shortened to as many of its first characters as asked for, by its bytes up to where a
character ends, and line breaks become blanks one by one. A response passes on a text exactly if
there is one, and then shows its first 25 characters on one line and keeps the whole text. -/
theorem preview_exact (n : Nat) (s : String) :
    Text.Shortened n s (Text.truncate n s) ∧
      (∀ m, Text.truncate n (Text.truncate m s) = Text.truncate (min m n) s) ∧
      (Text.truncate n s = s ↔ s.length ≤ n) ∧
      Text.Flattened (Text.truncate n s) (Text.snippet n s) ∧
      (∀ said, (Verdict.ofExcept (judgeText said)).passed ↔
        ∃ text, said = some text ∧ text ≠ "" ∧
          (Verdict.ofExcept (judgeText said)).Previews text) ∧
      ∀ p status body, (chatVerdict p .text status body).passed ↔
        ∃ chat text, opened p status body = .ok chat ∧ chat.text = some text ∧ text ≠ "" ∧
          (chatVerdict p .text status body).Previews text :=
  ⟨Text.shortened_truncate n s, fun m => Text.truncate_truncate m n s, Text.truncate_eq_self_iff,
    Text.flattened_snippet n s, fun _ => passed_judgeText_iff, fun _ _ _ => passed_text_iff⟩

/-- Four characters of one to four bytes, and a cut between a carriage return and its line feed. -/
example : Text.snippet 5 "aé你😀\r\nb" = "aé你😀 " := by decide

end Reply

end Conformance
