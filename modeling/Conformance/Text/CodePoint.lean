import Conformance.Text.Digit
import Conformance.Text.Split

/-!
Sets of code points. They are written as hexadecimal numbers and ranges, with a space after each
one but the last of a line.
-/

namespace Conformance.Text

def codePoint (cs : List Char) : Nat :=
  (ofDigits 16 cs).getD 0

/-- A range by its first and last code point, with a hyphen between them unless they are one. -/
def codeRange (cs : List Char) : Nat × Nat :=
  match cutAt '-' cs with
  | some (first, last) => (codePoint first, codePoint last)
  | none => (codePoint cs, codePoint cs)

def inRange (range : Nat × Nat) (n : Nat) : Bool :=
  range.1 ≤ n && n ≤ range.2

/-- The words on the lines of a table. -/
def tableWords (table : List String) : List (List Char) :=
  table.flatMap fun line => splitAt ' ' line.toList

structure CodePoints where
  ranges : List (Nat × Nat)

namespace CodePoints

def read (table : List String) : CodePoints :=
  ⟨(tableWords table).map codeRange⟩

def contains (s : CodePoints) (c : Char) : Bool :=
  s.ranges.any fun range => inRange range c.toNat

end CodePoints

end Conformance.Text
