/-!
Digits and the numbers they stand for. A hexadecimal digit may be a capital.
-/

namespace Conformance.Text

def hexValue (c : Char) : Option Nat :=
  if '0' ≤ c ∧ c ≤ '9' then some (c.toNat - '0'.toNat)
  else if 'a' ≤ c ∧ c ≤ 'f' then some (c.toNat - 'a'.toNat + 10)
  else if 'A' ≤ c ∧ c ≤ 'F' then some (c.toNat - 'A'.toNat + 10)
  else none

def isDigitIn (base : Nat) (c : Char) : Bool :=
  (hexValue c).any (· < base)

/-- The value of digits in a base, the most significant first. -/
def ofDigits (base : Nat) : List Char → Option Nat :=
  List.foldlM (fun n c => do
    let d ← hexValue c
    if d < base then some (n * base + d) else none) 0

/-- At least one digit, and nothing else. -/
def ofNumeral (base : Nat) (cs : List Char) : Option Nat :=
  if cs.isEmpty then none else ofDigits base cs

end Conformance.Text
