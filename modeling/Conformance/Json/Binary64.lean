/-!
Finite IEEE 754 binary64 numbers as sign, significand and exponent, with rounding to nearest (ties
to even) done on exact ratios of naturals.
-/

namespace Conformance.Json

/-- The number `± significand · 2 ^ exponent`. Values built by `ofRatio` are in lowest exponent
form: the significand is below `2 ^ 53`, and at least `2 ^ 52` unless the exponent is `-1074`. -/
structure Binary64 where
  negative : Bool
  significand : Nat
  exponent : Int
deriving DecidableEq, Repr

namespace Binary64

/-- The bit that every significand but the smallest ones has. -/
def hiddenBit : Nat := 1 <<< 52

def tenTo (k : Nat) : Nat := Nat.pow 10 k

/-- Half of the unit in the last place of the quotient goes to the even neighbour. -/
def roundDiv (num den : Nat) : Nat :=
  let quotient := num / den
  let twice := 2 * (num % den)
  if twice < den then quotient
  else if den < twice then quotient + 1
  else quotient + quotient % 2

/-- `num · 2 ^ (-exponent)` over `den`, both naturals. -/
def shifted (num den : Nat) (exponent : Int) : Nat × Nat :=
  if 0 ≤ exponent then (num, den <<< exponent.toNat) else (num <<< (-exponent).toNat, den)

/-- The exponent at which the quotient `num / den` has 53 binary digits, never below `-1074`. -/
def quotientExponent (num den : Nat) : Int :=
  let guess : Int := (num.log2 : Int) - (den.log2 : Int) - 52
  let (n, d) := shifted num den guess
  let exact := if n / d < hiddenBit then guess - 1 else guess
  max exact (-1074)

/-- The nearest binary64 number to `num / den`; `none` beyond the largest finite one. -/
def ofRatio (num den : Nat) : Option Binary64 :=
  if num = 0 then some ⟨false, 0, -1074⟩
  else
    let exponent := quotientExponent num den
    let (n, d) := shifted num den exponent
    let significand := roundDiv n d
    let (significand, exponent) :=
      if significand = 2 * hiddenBit then (hiddenBit, exponent + 1) else (significand, exponent)
    if 971 < exponent then none else some ⟨false, significand, exponent⟩

/-- The magnitude as a ratio. -/
def toRatio (x : Binary64) : Nat × Nat :=
  if 0 ≤ x.exponent then (x.significand <<< x.exponent.toNat, 1)
  else (x.significand, 1 <<< (-x.exponent).toNat)

def zero : Binary64 := ⟨false, 0, -1074⟩

def neg (x : Binary64) : Binary64 := { x with negative := !x.negative }

/-- The power of ten as binary64 holds it. -/
def powTen (k : Nat) : Binary64 :=
  (ofRatio (tenTo k) 1).getD zero

/-- Product of magnitudes. -/
def mul (x y : Binary64) : Option Binary64 :=
  let (a, b) := x.toRatio
  let (c, d) := y.toRatio
  ofRatio (a * c) (b * d)

/-- Quotient of magnitudes; the divisor is not zero. -/
def div (x y : Binary64) : Option Binary64 :=
  let (a, b) := x.toRatio
  let (c, d) := y.toRatio
  ofRatio (a * d) (b * c)

/-- `x / 10 ^ k`, dividing by `10 ^ 308` as often as `k` needs and rounding each quotient. -/
def scaleDown (x : Binary64) (k : Nat) : Binary64 :=
  if x.significand = 0 then x
  else if k ≤ 308 then (x.div (powTen k)).getD zero
  else ((x.div (powTen 308)).getD zero).scaleDown (k - 308)
termination_by k
decreasing_by omega

/-- `significand · 10 ^ exponent`: the significand is rounded first, then scaled. `none` when the
result is beyond the largest finite number. -/
def ofScientific (significand : Nat) (exponent : Int) : Option Binary64 :=
  (ofRatio significand 1).bind fun x =>
    if x.significand = 0 then some x
    else if exponent < 0 then some (x.scaleDown (-exponent).toNat)
    else if exponent ≤ 308 then x.mul (powTen exponent.toNat)
    else none

end Binary64

end Conformance.Json
