import Conformance.Json.Reader
import Conformance.Json.Writer

/-! Both writers put down the same marks. Only the white space between them differs. -/
namespace Conformance.Json

/-- The white space of a text: what a line begins with at each level, and what stands behind a
colon. -/
structure Layout where
  line : Nat → List Char
  gap : List Char
  line_blank : ∀ level, ∀ c ∈ line level, isSpace c = true
  gap_blank : ∀ c ∈ gap, isSpace c = true

namespace Layout

mutual

/-- A value whose closing bracket stands at indentation `level`. -/
def write (l : Layout) (level : Nat) : Json → List Char
  | .array (item :: items) =>
    '[' :: l.line (level + 1) ++ l.write (level + 1) item ++ l.writeItems (level + 1) items
      ++ l.line level ++ [']']
  | .object ((key, value) :: members) =>
    '\x7b' :: l.line (level + 1) ++ writeString key ++ ':' :: l.gap ++ l.write (level + 1) value
      ++ l.writeMembers (level + 1) members ++ l.line level ++ ['\x7d']
  | .array [] => ['[', ']']
  | .object [] => ['\x7b', '\x7d']
  | .null => ['n', 'u', 'l', 'l']
  | .bool true => ['t', 'r', 'u', 'e']
  | .bool false => ['f', 'a', 'l', 's', 'e']
  | .number n => writeNumber n
  | .string s => writeString s

def writeItems (l : Layout) (level : Nat) : List Json → List Char
  | [] => []
  | item :: items => ',' :: l.line level ++ l.write level item ++ l.writeItems level items

def writeMembers (l : Layout) (level : Nat) : List (String × Json) → List Char
  | [] => []
  | (key, value) :: members =>
    ',' :: l.line level ++ writeString key ++ ':' :: l.gap ++ l.write level value
      ++ l.writeMembers level members

end

theorem isSpace_of_mem_newLine (level : Nat) : ∀ c ∈ newLine level, isSpace c = true := by
  intro c hc
  obtain rfl | hc := List.mem_cons.mp hc
  · rfl
  · rw [List.eq_of_mem_replicate hc]
    rfl

/-- One member or element a line. -/
def indented : Layout where
  line := newLine
  gap := [' ']
  line_blank := isSpace_of_mem_newLine
  gap_blank := List.forall_mem_singleton.mpr rfl

/-- No white space at all. -/
def dense : Layout where
  line _ := []
  gap := []
  line_blank _ := List.forall_mem_nil _
  gap_blank := List.forall_mem_nil _

mutual

theorem write_indented (level : Nat) : ∀ v, indented.write level v = writeIndented level v
  | .array (item :: items) => by
    rw [write, writeIndented, write_indented (level + 1) item, writeItems_indented]
    rfl
  | .object ((key, value) :: members) => by
    rw [write, writeIndented, write_indented (level + 1) value, writeMembers_indented]
    simp [indented]
  | .array [] => by rw [write, writeIndented]
  | .object [] => by rw [write, writeIndented]
  | .null => by rw [write, writeIndented]
  | .bool true => by rw [write, writeIndented]
  | .bool false => by rw [write, writeIndented]
  | .number n => by rw [write, writeIndented]
  | .string s => by rw [write, writeIndented]

theorem writeItems_indented (level : Nat) :
    ∀ items, indented.writeItems level items = indentedItems level items
  | [] => by rw [writeItems, indentedItems]
  | item :: items => by
    rw [writeItems, indentedItems, write_indented level item, writeItems_indented level items]
    rfl

theorem writeMembers_indented (level : Nat) :
    ∀ members, indented.writeMembers level members = indentedMembers level members
  | [] => by rw [writeMembers, indentedMembers]
  | (key, value) :: members => by
    rw [writeMembers, indentedMembers, write_indented level value,
      writeMembers_indented level members]
    simp [indented]

end

mutual

/-- Without line breaks no level shows. -/
theorem write_dense (level : Nat) : ∀ v, dense.write level v = Json.write v
  | .array (item :: items) => by
    rw [write, Json.write, Json.writeItems, write_dense (level + 1) item, writeItems_dense]
    simp [dense]
  | .object ((key, value) :: members) => by
    rw [write, Json.write, Json.writeMembers, write_dense (level + 1) value, writeMembers_dense]
    simp [dense]
  | .array [] => by rw [write]; rfl
  | .object [] => by rw [write]; rfl
  | .null => by rw [write, Json.write]
  | .bool true => by rw [write, Json.write]
  | .bool false => by rw [write, Json.write]
  | .number n => by rw [write, Json.write]
  | .string s => by rw [write, Json.write]

theorem writeItems_dense (level : Nat) :
    ∀ items, dense.writeItems level items = writeMoreItems items
  | [] => by rw [writeItems, writeMoreItems]
  | item :: items => by
    rw [writeItems, writeMoreItems, write_dense level item, writeItems_dense level items]
    simp [dense]

theorem writeMembers_dense (level : Nat) :
    ∀ members, dense.writeMembers level members = writeMoreMembers members
  | [] => by rw [writeMembers, writeMoreMembers]
  | (key, value) :: members => by
    rw [writeMembers, writeMoreMembers, write_dense level value, writeMembers_dense level members]
    simp [dense]

end

end Layout

end Conformance.Json
