import Conformance.Proofs.Reply.Messages

/-! Content blocks of a type that is not looked into. Leaving any of them out of a response changes
nothing about its verdict, except for what is quoted where no block is left, as long as they do not
open more brackets than are read. -/
namespace Conformance

/-- Elements of a kind are left out of a list, some of them or all. -/
inductive Thinned {α : Type} (kind : α → Prop) : List α → List α → Prop where
  | nil : Thinned kind [] []
  | keep {xs ys : List α} (x : α) (h : Thinned kind xs ys) : Thinned kind (x :: xs) (x :: ys)
  | drop {xs ys : List α} {x : α} (hx : kind x) (h : Thinned kind xs ys) :
    Thinned kind (x :: xs) ys

namespace Thinned

variable {ε α β : Type} {kind : α → Prop} {xs ys : List α}

/-- What makes nothing of the elements left out finds the same first thing without them. -/
theorem findSome?_eq {f : α → Option β} (hf : ∀ x, kind x → f x = none) (h : Thinned kind xs ys) :
    xs.findSome? f = ys.findSome? f := by
  induction h with
  | nil => rfl
  | keep x _ ih => rw [List.findSome?_cons, List.findSome?_cons, ih]
  | drop hx _ ih => rw [List.findSome?_cons, hf _ hx, ih]

theorem filterMap_eq {f : α → Option β} (hf : ∀ x, kind x → f x = none) (h : Thinned kind xs ys) :
    xs.filterMap f = ys.filterMap f := by
  induction h with
  | nil => rfl
  | keep x _ ih => rw [List.filterMap_cons, List.filterMap_cons, ih]
  | drop hx _ ih => rw [List.filterMap_cons_none (hf _ hx), ih]

theorem eq_nil (h : Thinned kind [] ys) : ys = [] := by
  cases h
  rfl

/-- What goes through all elements of a kind fails for the same reason without them, or what it
comes to is thinned out as well. -/
theorem mapM {kind' : β → Prop} {f : α → Except ε β}
    (hf : ∀ x, kind x → ∃ y, f x = .ok y ∧ kind' y) (h : Thinned kind xs ys) :
    Outcome.Related (Thinned kind') (xs.mapM f) (ys.mapM f) := by
  induction h with
  | nil => exact .ok .nil
  | @keep xs ys x _ ih =>
    rw [List.mapM_cons, List.mapM_cons]
    cases f x with
    | error e => exact .error e
    | ok y => exact ih.map fun _ _ h => .keep y h
  | @drop xs ys x hx _ ih =>
    obtain ⟨y, hy, hk⟩ := hf x hx
    rw [List.mapM_cons, hy]
    exact ih.map_left fun _ _ h => .drop hk h

end Thinned

namespace Reply

open Json (AnyNumber Members Nested Sorted Spells)

variable {e : Expectation} {body body' : String} {members members' : Members}
  {items kept : List Json} {limit limit' : Nat}

/-- An object whose type is a text, but neither of the two that are looked into. -/
def IsOther (block : Json) : Prop :=
  ∃ (members : Members) (type : String), block = .object members ∧
    members.get? "type" = some (.string type) ∧ type ≠ "text" ∧ type ≠ "tool_use"

theorem block_of_isOther {block : Json} (h : IsOther block) : Chat.block block = .ok .other := by
  obtain ⟨members, type, rfl, ht, hn, hn'⟩ := h
  simp [Chat.block, ht, Json.Decoder.tag, Chat.Block.ofType, hn, hn', bind, Except.bind, Except.map]

theorem thinned_blocks (h : Thinned IsOther items kept) :
    Outcome.Related (Thinned (· = Chat.Block.other)) (items.mapM Chat.block)
      (kept.mapM Chat.block) :=
  h.mapM fun _ hb => ⟨.other, block_of_isOther hb, rfl⟩

/-! ### What is said about it -/

/-- What is said of a call that is missing. -/
def missingCall (said : String) : Verdict :=
  .fail .semantic ("tool_use missing. Model said: " ++ said)

/-- Blocks that are not looked into say nothing. -/
theorem ofBlocks_others {blocks : List Chat.Block} (h : Thinned (· = Chat.Block.other) blocks [])
    (hn : blocks ≠ []) : Chat.ofBlocks blocks = ⟨none, [], ""⟩ := by
  have htext : blocks.findSome? Chat.Block.text? = none := h.findSome?_eq (by rintro _ rfl; rfl)
  have hcalls : blocks.filterMap Chat.Block.tool? = [] := h.filterMap_eq (by rintro _ rfl; rfl)
  simp [Chat.ofBlocks, htext, hcalls, hn]

theorem ofBlocks_thinned {blocks left : List Chat.Block}
    (h : Thinned (· = Chat.Block.other) blocks left) (hn : left = [] → blocks = []) :
    Chat.ofBlocks blocks = Chat.ofBlocks left := by
  have hempty : blocks.isEmpty = left.isEmpty := by
    rw [Bool.eq_iff_iff, List.isEmpty_iff, List.isEmpty_iff]
    exact ⟨fun hb => (hb ▸ h).eq_nil, hn⟩
  have htext : blocks.findSome? Chat.Block.text? = left.findSome? Chat.Block.text? :=
    h.findSome?_eq (by rintro _ rfl; rfl)
  have hcalls : blocks.filterMap Chat.Block.tool? = left.filterMap Chat.Block.tool? :=
    h.filterMap_eq (by rintro _ rfl; rfl)
  simp only [Chat.ofBlocks, hempty, htext, hcalls]

/-- What is read of blocks that are left out of a list shows in no verdict, unless it is all that was
read. -/
theorem messageVerdict_thinned {found found' : Except Json.DecodeError (List Chat.Block)}
    (h : Outcome.Related (Thinned (· = Chat.Block.other)) found found')
    (hn : found' = .ok [] → found = .ok []) :
    messageVerdict .claude e (found.map Chat.ofBlocks) =
      messageVerdict .claude e (found'.map Chat.ofBlocks) := by
  cases h with
  | error cause => rfl
  | ok hleft =>
    rw [Except.map, Except.map, ofBlocks_thinned hleft fun hl =>
      Except.ok.inj (hn (congrArg Except.ok hl))]

/-- The verdicts on a response and on the same one with blocks left out. -/
structure SameButQuote (e : Expectation) (items kept : List Json) (v w : Verdict) : Prop where
  same : e = .text ∨ kept ≠ [] ∨ items = [] → v = w
  noneLeft : e = .toolCall → kept = [] → items ≠ [] → v = missingCall "" ∧ w = missingCall "Empty"

theorem SameButQuote.of_eq {v w : Verdict} (h : v = w) (hn : kept = [] → items = []) :
    SameButQuote e items kept v w :=
  ⟨fun _ => h, fun _ hk hi => absurd (hn hk) hi⟩

theorem envelopeVerdict_blocks (items : List Json) : envelopeVerdict .claude e (.array items) =
    messageVerdict .claude e ((items.mapM Chat.block).map Chat.ofBlocks) := by
  rw [envelopeVerdict, messageVerdict, Chat.typed, Json.Decoder.list]
  cases items.mapM Chat.block <;> rfl

theorem envelopeVerdict_thinned (e : Expectation) (h : Thinned IsOther items kept) :
    SameButQuote e items kept (envelopeVerdict .claude e (.array items))
      (envelopeVerdict .claude e (.array kept)) := by
  have hread := thinned_blocks h
  rw [envelopeVerdict_blocks, envelopeVerdict_blocks]
  by_cases hn : kept = [] → items = []
  · refine .of_eq (messageVerdict_thinned hread fun hk => ?_) hn
    exact Outcome.mapM_eq_ok_nil.mpr (hn (Outcome.mapM_eq_ok_nil.mp hk))
  · obtain ⟨rfl, hne⟩ := Classical.not_imp.mp hn
    -- nothing is read of no block, so all blocks that were read are of other types
    have hsome := mt (Outcome.mapM_eq_ok_nil (f := Chat.block)).mp hne
    generalize items.mapM Chat.block = found at hread hsome ⊢
    cases hread with
    | ok hleft =>
      have hsaid := ofBlocks_others hleft fun hb => hsome (congrArg Except.ok hb)
      rw [Except.map, hsaid]
      refine ⟨fun hcase => ?_, fun he _ _ => ?_⟩
      · obtain rfl : e = .text := by simpa [hne] using hcase
        rfl
      · subst he
        exact ⟨rfl, rfl⟩

/-- Only a block that is looked into can be a fault of decoding. -/
theorem fault_eq_decode_iff_block (hr : Json.read body = .ok (.object members))
    (hc : members.get? "content" = some (.array items)) :
    (chatVerdict .claude e 200 body).fault = some .decode ↔
      ∃ block ∈ items, ¬ IsOther block ∧ ∃ cause, Chat.block block = .error cause := by
  have hfails : (∃ block ∈ items, ¬ IsOther block ∧ ∃ cause, Chat.block block = .error cause) ↔
      ∃ cause, items.mapM Chat.block = .error cause := by
    rw [Outcome.mapM_fails_iff]
    refine exists_congr fun block => and_congr_right fun _ => and_iff_right_of_imp ?_
    rintro ⟨cause, hb⟩ ho
    cases (block_of_isOther ho).symm.trans hb
  rw [hfails]
  cases ht : items.mapM Chat.block with
  | error cause =>
    have htyped : Chat.typed .claude (.array items) = .error cause := by
      rw [Chat.typed, Json.Decoder.list, ht]
      rfl
    rw [chatVerdict_malformed (p := .claude) hr hc htyped]
    exact iff_of_true rfl ⟨cause, rfl⟩
  | ok blocks =>
    have htyped : Chat.typed .claude (.array items) = .ok (.ok (Chat.ofBlocks blocks)) := by
      rw [Chat.typed, Json.Decoder.list, ht]
      rfl
    refine iff_of_false (fun hf => ?_) (by rintro ⟨_, ⟨⟩⟩)
    rcases chatVerdict_typed_fault (p := .claude) (e := e) hr hc htyped with hn | hn <;>
      cases hn.symm.trans hf

/-- Around a block there are two brackets. -/
theorem nested_of_content (h : Nested AnyNumber (limit + 2) (.object members))
    (hc : members.get? "content" = some (.array items)) :
    ∀ block ∈ items, Nested AnyNumber limit block := by
  have hcontent := Nested.object_iff.mp h _ (Members.mem_of_get?_eq_some hc)
  exact Nested.array_iff.mp hcontent

/-- Blocks of other types may be left out of any text of a response, whatever else it holds: if no
more than 127 brackets are open at once in either text, the verdict is the same, only that a call is
missed with another quote where no block is left. Up to there such a block is no fault of decoding.
More brackets are one, and a block nested too deep brings them with it. -/
theorem other_blocks_transparent (e : Expectation) (hb : Spells limit body (.object members))
    (hb' : Spells limit' body' (.object members'))
    (hc : members.get? "content" = some (.array items))
    (hc' : members'.get? "content" = some (.array kept)) (ht : Thinned IsOther items kept) :
    (Spells 127 body (.object members) → Spells 127 body' (.object members') →
      SameButQuote e items kept (chatVerdict .claude e 200 body)
        (chatVerdict .claude e 200 body')) ∧
    (Spells 127 body (.object members) →
      ((chatVerdict .claude e 200 body).fault = some .decode ↔
        ∃ block ∈ items, ¬ IsOther block ∧ ∃ cause, Chat.block block = .error cause)) ∧
    (¬ Spells 127 body (.object members) →
      (chatVerdict .claude e 200 body).fault = some .decode) ∧
    (¬ Spells 127 body' (.object members') →
      (chatVerdict .claude e 200 body').fault = some .decode) ∧
    ∀ block ∈ items, ¬ Nested AnyNumber 125 block → ¬ Spells 127 body (.object members) := by
  refine ⟨fun hw hw' => ?_, fun hw => ?_, fun hd => (chatVerdict_deep hb hd).2.1,
    fun hd => (chatVerdict_deep hb' hd).2.1,
    fun block hm hn hw => hn (nested_of_content hw.nested hc block hm)⟩
  · rw [chatVerdict_eq_envelopeVerdict (p := .claude) (Json.read_eq_ok_iff.mpr hw) hc,
      chatVerdict_eq_envelopeVerdict (p := .claude) (Json.read_eq_ok_iff.mpr hw') hc']
    exact envelopeVerdict_thinned e ht
  · exact fault_eq_decode_iff_block (Json.read_eq_ok_iff.mpr hw) hc

/-- A thought before and after a text. -/
def thoughtful : String :=
  "\x7b\"content\":[\x7b\"type\":\"thinking\",\"thinking\":[null]\x7d,"
    ++ "\x7b\"type\":\"text\",\"text\":\"Hi\"\x7d,\x7b\"type\":\"redacted_thinking\"\x7d]\x7d"

def thoughtless : String :=
  "\x7b\"content\":[\x7b\"type\":\"text\",\"text\":\"Hi\"\x7d]\x7d"

def textBlock : Json := .object [("text", .string "Hi"), ("type", .string "text")]

def thinkingBlock (thought : Json) : Json :=
  .object [("thinking", thought), ("type", .string "thinking")]

def redactedBlock : Json := .object [("type", .string "redacted_thinking")]

/-- A text behind a thought. -/
def afterThought (thought : Json) : Json :=
  .object [("content", .array [thinkingBlock thought, textBlock])]

def withoutThought : Json := .object [("content", .array [textBlock])]

theorem isOther_thinkingBlock (thought : Json) : IsOther (thinkingBlock thought) :=
  ⟨_, "thinking", rfl, rfl, by decide, by decide⟩

theorem isOther_redactedBlock : IsOther redactedBlock :=
  ⟨_, "redacted_thinking", rfl, rfl, by decide, by decide⟩

theorem other_blocks_transparent_thoughtful :
    Spells 127 thoughtful
        (.object [("content", .array [thinkingBlock (.array [.null]), textBlock, redactedBlock])]) ∧
      Spells 127 thoughtless withoutThought ∧
      chatVerdict .claude .toolCall 200 thoughtful =
        chatVerdict .claude .toolCall 200 thoughtless ∧
      (chatVerdict .claude .toolCall 200 thoughtful).fault = some .semantic := by
  have hb : Spells 127 thoughtful (.object [("content",
      .array [thinkingBlock (.array [.null]), textBlock, redactedBlock])]) :=
    Json.read_eq_ok_iff.mp (by cbv)
  have hb' : Spells 127 thoughtless withoutThought := Json.read_eq_ok_iff.mp (by cbv)
  have ht : Thinned IsOther [thinkingBlock (.array [.null]), textBlock, redactedBlock]
      [textBlock] :=
    .drop (isOther_thinkingBlock _) (.keep _ (.drop isOther_redactedBlock .nil))
  have hsame := (other_blocks_transparent .toolCall hb hb' rfl rfl ht).1 hb hb'
  refine ⟨hb, hb', hsame.same (Or.inr (Or.inl (by simp))), ?_⟩
  rw [chatVerdict_eq_envelopeVerdict (p := .claude) (Json.read_eq_ok_iff.mpr hb) rfl]
  rfl

theorem ordered_textMembers :
    Members.Ordered [("text", .string "Hi"), ("type", .string "text")] :=
  Members.ordered_pair (by decide) _ _

/-- The text of the response has three brackets around a thought. -/
theorem spells_afterThought {thought : Json} (hs : Sorted thought) (hf : Json.Fits limit thought) :
    Spells (limit + 3) (afterThought thought).pretty (afterThought thought) := by
  refine Json.spells_pretty_of_sorted ?_ ?_
  · simp [afterThought, thinkingBlock, textBlock, hf]
  · have hthought : Members.Ordered [("thinking", thought), ("type", .string "thinking")] :=
      Members.ordered_pair (by decide) _ _
    simp [afterThought, thinkingBlock, textBlock, hs, hthought, ordered_textMembers]

theorem spells_withoutThought : Spells 127 withoutThought.pretty withoutThought := by
  refine Json.spells_pretty_of_sorted ?_ ?_
  · simp [withoutThought, textBlock]
  · simp [withoutThought, textBlock, ordered_textMembers]

/-- A thought of so many brackets that there is no room for those around it. -/
theorem deep_thought_not_transparent :
    Thinned IsOther [thinkingBlock (listWithin 124), textBlock] [textBlock] ∧
      Spells 128 (afterThought (listWithin 124)).pretty (afterThought (listWithin 124)) ∧
      Spells 127 withoutThought.pretty withoutThought ∧
      (chatVerdict .claude .text 200 (afterThought (listWithin 124)).pretty).fault =
        some .decode ∧
      (chatVerdict .claude .text 200 withoutThought.pretty).passed = true := by
  have hspells := spells_afterThought (sorted_listWithin 124) (fits_listWithin 124)
  refine ⟨.drop (isOther_thinkingBlock _) (.keep _ .nil), hspells, spells_withoutThought,
    (chatVerdict_deep hspells fun hw => ?_).2.1, ?_⟩
  · -- of 127 brackets 124 are left to the thought, and it has 125
    have hthought : Nested AnyNumber 124 (listWithin 124) :=
      Nested.object_iff.mp (nested_of_content hw.nested rfl _ List.mem_cons_self) _
        List.mem_cons_self
    exact absurd (lt_of_nested_listWithin hthought) (by decide)
  · rw [chatVerdict_eq_envelopeVerdict (p := .claude)
      (Json.read_eq_ok_iff.mpr spells_withoutThought) rfl]
    rfl

end Reply

end Conformance
