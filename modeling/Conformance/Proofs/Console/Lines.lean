import Conformance.Console.Report
import Conformance.Proofs.Text.OneLine
import Conformance.Proofs.Text.Split

/-! The lines of what is printed without colours, and which of them look like the outcome of a case.
Only a text that goes on in another line can make one look so that is none. -/
namespace Conformance.Console

open Text (Lacks OneLine oneLine_append lacks_nat lacks_replicate)

/-- How the line of a case begins. -/
def tag (passed : Bool) : String := if passed then "[PASS]" else "[FAIL]"

/-- The lines of a printed text. -/
def lines (text : String) : List (List Char) := Text.splitAt '\n' text.toList

def isTagged (passed : Bool) (line : List Char) : Bool := (tag passed).toList.isPrefixOf line

/-- How many lines of what is printed begin like the line of such a case. -/
def taggedLines (passed : Bool) (printed : List String) : Nat :=
  (printed.flatMap lines).countP (isTagged passed)

/-- How many of them are not where a printed text begins. -/
def strayLines (passed : Bool) (printed : List String) : Nat :=
  (printed.flatMap fun text => (lines text).tail).countP (isTagged passed)

/-- No tag begins anywhere in the text. -/
abbrev Untagged (s : String) : Prop := Lacks ['['] s

variable {s t : String}

theorem taggedLines_append (passed : Bool) (printed more : List String) :
    taggedLines passed (printed ++ more) =
      taggedLines passed printed + taggedLines passed more := by
  simp [taggedLines, List.flatMap_append]

theorem strayLines_append (passed : Bool) (printed more : List String) :
    strayLines passed (printed ++ more) = strayLines passed printed + strayLines passed more := by
  simp [strayLines, List.flatMap_append]

theorem taggedLines_of_untagged (passed : Bool) (h : Untagged t) : taggedLines passed [t] = 0 := by
  unfold taggedLines
  rw [List.countP_eq_zero]
  intro line hl ht
  rw [List.flatMap_singleton] at hl
  have hbracket : '[' ∈ line := by
    obtain ⟨rest, rfl⟩ := List.isPrefixOf_iff_prefix.mp ht
    cases passed <;> exact List.mem_append_left _ (by decide)
  exact h '[' ((Text.mem_splitAt hl).2 '[' hbracket) List.mem_cons_self

/-- Where every text is on one line, each line is where a text begins. -/
theorem strayLines_of_oneLine (passed : Bool) {printed : List String}
    (h : ∀ text ∈ printed, OneLine text) : strayLines passed printed = 0 := by
  have hrest : (printed.flatMap fun text => (lines text).tail) = [] := by
    refine List.flatMap_eq_nil_iff.mpr fun text ht => ?_
    have hn : '\n' ∉ text.toList := fun hm => h text ht '\n' hm (by decide)
    rw [lines, Text.splitAt_of_not_mem hn]
    rfl
  rw [strayLines, hrest]
  rfl

/-- Behind a beginning without a line break, only the first line is another one. -/
theorem lines_append (h : OneLine s) (t : String) : ∃ first rest,
    lines t = first :: rest ∧ lines (s ++ t) = (s.toList ++ first) :: rest := by
  have hn : '\n' ∉ s.toList := fun hm => h '\n' hm (by decide)
  obtain ⟨first, rest, ht, hst⟩ := Text.splitAt_append_left hn t.toList
  exact ⟨first, rest, ht, by rw [lines, String.toList_append, hst]⟩

/-! ### The line of a case -/

theorem caseLine_plain (r : CaseReport) : caseLine false r =
    tag r.passed ++ " " ++ Text.padChars 20 r.id.label ++ " | " ++ r.verdict.message := by
  unfold caseLine tag
  cases r.passed <;> rfl

theorem oneLine_tag (passed : Bool) : OneLine (tag passed) := by
  cases passed <;> decide

theorem oneLine_caseLine (r : CaseReport) :
    OneLine (caseLine false r) ↔ OneLine r.id.label ∧ OneLine r.verdict.message := by
  have htag : OneLine (tag r.passed ++ " ") := (oneLine_tag r.passed).append (by decide)
  have hbar : OneLine " | " := by decide
  have hlabel : OneLine (Text.padChars 20 r.id.label) ↔ OneLine r.id.label :=
    Text.lacks_padChars (by decide)
  rw [caseLine_plain, oneLine_append, oneLine_append, oneLine_append, and_iff_right htag,
    and_iff_left hbar, hlabel]

/-- The line begins with its own tag, and whatever else begins with one is another line. -/
theorem taggedLines_caseLine (passed : Bool) (r : CaseReport) :
    taggedLines passed [caseLine false r] =
      (if r.passed = passed then 1 else 0) + strayLines passed [caseLine false r] := by
  obtain ⟨first, rest, _, hlines⟩ := lines_append (oneLine_tag r.passed)
    (" " ++ Text.padChars 20 r.id.label ++ " | " ++ r.verdict.message)
  have hline : caseLine false r =
      tag r.passed ++ (" " ++ Text.padChars 20 r.id.label ++ " | " ++ r.verdict.message) := by
    simp only [caseLine_plain, String.append_assoc]
  rw [← hline] at hlines
  have hfirst : isTagged passed ((tag r.passed).toList ++ first) = decide (r.passed = passed) := by
    cases passed <;> cases r.passed <;> rfl
  simp only [taggedLines, strayLines, List.flatMap_singleton, hlines, List.countP_cons, hfirst,
    List.tail_cons, decide_eq_true_eq]
  exact Nat.add_comm _ _

/-! ### Headings and the summary -/

theorem untagged_heavyRule : Untagged heavyRule := lacks_replicate (by decide) _

theorem untagged_suiteHeading (suite : Suite) : Untagged (suiteHeading false suite.title) := by
  have htitle : Untagged ("  " ++ suite.title) := by cases suite <;> decide
  exact .append (.append (.append (.append (.append (by decide) untagged_heavyRule) (by decide))
    htitle) (by decide)) untagged_heavyRule

theorem untagged_protocolHeading (p : Protocol) : Untagged (protocolHeading false p) := by
  have hname : Untagged p.displayName := by cases p <;> decide
  exact .append (by decide) (.append (.append (by decide) hname) (by decide))

/-- What a table is drawn with, whatever stands in its cells. -/
theorem untagged_drawLine {widths : List Nat} {texts : List String}
    (h : ∀ text ∈ texts, Untagged text) : Untagged (drawLine widths texts) := by
  refine .append (.append (by decide) (.intercalate (by decide) fun part hp => ?_)) (by decide)
  obtain ⟨i, hi, rfl⟩ := List.mem_iff_getElem.mp hp
  rw [List.getElem_zipWith]
  exact .append (.append (by decide) (.padColumns (by decide) (h _ (List.getElem_mem _))))
    (by decide)

theorem untagged_cellLines {cell : String} (h : Untagged cell) :
    ∀ line ∈ cellLines cell, Untagged line := by
  intro line hl
  obtain ⟨part, hp, rfl⟩ := List.mem_map.mp hl
  exact Text.lacks_ofList.mpr fun c hc => h c ((Text.mem_splitAt hp).2 c hc)

theorem untagged_drawRow {widths : List Nat} {cells : List String}
    (h : ∀ cell ∈ cells, Untagged cell) : ∀ line ∈ drawRow widths cells, Untagged line := by
  intro line hl
  obtain ⟨i, _, rfl⟩ := List.mem_map.mp hl
  refine untagged_drawLine fun text ht => ?_
  obtain ⟨column, hc, rfl⟩ := List.mem_map.mp ht
  obtain ⟨cell, hcell, rfl⟩ := List.mem_map.mp hc
  rw [List.getD_eq_getElem?_getD]
  cases hline : (cellLines cell)[i]? with
  | none => exact (by decide : Untagged "")
  | some line => exact untagged_cellLines (h cell hcell) line (List.mem_of_getElem? hline)

theorem untagged_rule {r : Rule} (h : '[' ∉ [r.left, r.stroke, r.crossing, r.right])
    (widths : List Nat) : Untagged (r.draw widths) := by
  simp only [List.mem_cons, List.not_mem_nil, or_false, not_or] at h
  obtain ⟨hl, hs, hc, hr⟩ := h
  have hsingle : ∀ {c : Char}, '[' ≠ c → Untagged (String.singleton c) := by
    intro c hc d hd
    rw [String.toList_singleton] at hd
    obtain rfl := List.mem_singleton.mp hd
    simpa using Ne.symm hc
  refine .append (.append (hsingle hl) (.intercalate (hsingle hc) fun span hspan => ?_))
    (hsingle hr)
  obtain ⟨w, _, rfl⟩ := List.mem_map.mp hspan
  have hstroke : r.stroke ∉ ['['] := by simpa using Ne.symm hs
  exact lacks_replicate hstroke _

theorem mem_intersperse {α : Type} {sep x : α} {xs : List α} (h : x ∈ xs.intersperse sep) :
    x = sep ∨ x ∈ xs := by
  induction xs with
  | nil => cases h
  | cons a xs ih =>
    cases xs with
    | nil => exact Or.inr h
    | cons b rest =>
      rw [List.intersperse_cons_cons, List.mem_cons, List.mem_cons] at h
      obtain rfl | rfl | h := h
      · exact Or.inr List.mem_cons_self
      · exact Or.inl rfl
      · exact (ih h).imp_right (List.mem_cons_of_mem a)

theorem untagged_table {t : Table} (hh : ∀ cell ∈ t.header, Untagged cell)
    (hr : ∀ row ∈ t.rows, ∀ cell ∈ row, Untagged cell) : Untagged t.text := by
  refine .intercalate (by decide) fun line hl => ?_
  simp only [Table.lines, List.mem_append, List.mem_cons, List.not_mem_nil, or_false] at hl
  obtain ((rfl | hl) | rfl | hl) | rfl := hl
  · exact untagged_rule (by decide) _
  · exact untagged_drawRow hh line hl
  · exact untagged_rule (by decide) _
  · obtain ⟨row, hrow, hl⟩ := List.mem_flatten.mp hl
    obtain rfl | hrow := mem_intersperse hrow
    · obtain rfl := List.mem_singleton.mp hl
      exact untagged_rule (by decide) _
    · obtain ⟨cells, hcells, rfl⟩ := List.mem_map.mp hrow
      exact untagged_drawRow (hr cells hcells) line hl
  · exact untagged_rule (by decide) _

theorem untagged_nat (n : Nat) : Untagged (toString n) := lacks_nat (by simp) n

theorem untagged_summaryTable (r : Report) : Untagged (summaryTable false r).text := by
  have hheader : ∀ cell ∈ ["Suite", "Total", "Passed", "Failed"], Untagged cell := by decide
  refine untagged_table hheader fun row hrow cell hcell => ?_
  rcases List.mem_append.mp hrow with hrow | hrow
  · obtain ⟨suite, _, hrow⟩ := List.mem_filterMap.mp hrow
    have htitle : Untagged suite.title := by cases suite <;> decide
    dsimp only at hrow
    split at hrow
    · cases hrow
    · cases hrow
      simp only [suiteRow, paint, List.mem_cons, List.not_mem_nil, or_false] at hcell
      obtain rfl | rfl | rfl | rfl := hcell
      · exact htitle
      · exact untagged_nat _
      · exact untagged_nat _
      · exact untagged_nat _
  · obtain rfl := List.mem_singleton.mp hrow
    simp only [List.mem_cons, List.not_mem_nil, or_false] at hcell
    obtain rfl | rfl | rfl | rfl := hcell
    · decide
    · exact untagged_nat _
    · exact untagged_nat _
    · exact untagged_nat _

theorem untagged_faultLine (s : Summary) : Untagged (faultLine s) := by
  unfold faultLine
  split
  · decide
  · refine .append (by decide) (.intercalate (by decide) fun part hp => ?_)
    obtain ⟨⟨f, n⟩, _, rfl⟩ := List.mem_map.mp hp
    have hlabel : Untagged f.label := by cases f <;> decide
    exact .append (.append hlabel (by decide)) (untagged_nat n)

theorem untagged_summary (r : Report) : Untagged (summary false r) :=
  .append (.append (.append (.append (.append (.append (by decide) untagged_heavyRule) (by decide))
    untagged_heavyRule) (by decide)) (untagged_summaryTable r)) (untagged_faultLine r.summary)

end Conformance.Console
