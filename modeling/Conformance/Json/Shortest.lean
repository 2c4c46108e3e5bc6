import Conformance.Json.Binary64

/-!
The shortest decimal text that reads back as a given binary64 number.
-/

namespace Conformance.Json

namespace Binary64

/-- The bounds of the reals that round to `x`, and `x` itself, as multiples of
`2 ^ (x.exponent - 2)`. The gap below a power of two is half as wide as the one above. -/
def neighbourhood (x : Binary64) : Nat × Nat × Nat :=
  let middle := 4 * x.significand
  let below := if x.significand = hiddenBit ∧ -1074 < x.exponent then 1 else 2
  (middle - below, middle, middle + 2)

/-- `⌊log₁₀ (num / den)⌋` for a positive ratio. -/
def log10 (num den : Nat) : Int :=
  if den ≤ num then ((Nat.toDigits 10 (num / den)).length : Int) - 1
  else
    let digits := (Nat.toDigits 10 (den / num)).length
    if num * tenTo (digits - 1) < den then -(digits : Int) else 1 - (digits : Int)

/-- The decimal `digits · 10 ^ power`. -/
structure Decimal where
  digits : Nat
  power : Int
deriving DecidableEq, Repr

/-- The nearer to `x` of its two neighbours on the multiples of `10 ^ power` (the even one of two
equally near), provided it rounds to `x`. -/
def onGrid (x : Binary64) (power : Int) : Option Decimal :=
  let (low, middle, high) := x.neighbourhood
  let unit := x.exponent - 2
  let up := if 0 ≤ unit then 1 <<< unit.toNat else 1
  let down := if 0 ≤ unit then 1 else 1 <<< (-unit).toNat
  let grid := if 0 ≤ power then tenTo power.toNat * down else down
  let scale := if 0 ≤ power then up else up * tenTo (-power).toNat
  let inside (c : Nat) : Bool :=
    if x.significand % 2 = 0 then low * scale ≤ c * grid && c * grid ≤ high * scale
    else low * scale < c * grid && c * grid < high * scale
  let floor := middle * scale / grid
  let twice := 2 * (middle * scale % grid)
  let nearerAbove := grid < twice || (grid = twice && floor % 2 = 1)
  let candidates := if nearerAbove then [floor + 1, floor] else [floor, floor + 1]
  (candidates.find? inside).map (⟨·, power⟩)

/-- The fewest digits first: the grid of `17` digits always has a hit. -/
def shortest (x : Binary64) : Decimal :=
  let (num, den) := x.toRatio
  let top := log10 num den
  let grids := (List.range 17).map fun (n : Nat) => top - (n : Int)
  (grids.findSome? x.onGrid).getD ⟨0, 0⟩

/-- Positional notation is used while the decimal point falls at most 16 places after and 4 places
before the first digit; otherwise one digit precedes the point and the exponent is signed. -/
def decimalText (digits : List Char) (power : Int) : List Char :=
  let point : Int := digits.length + power
  if 0 ≤ power ∧ point ≤ 16 then
    digits ++ List.replicate power.toNat '0' ++ ['.', '0']
  else if 0 < point ∧ point ≤ 16 then
    digits.take point.toNat ++ '.' :: digits.drop point.toNat
  else if -5 < point ∧ point ≤ 0 then
    '0' :: '.' :: List.replicate (-point).toNat '0' ++ digits
  else
    let exponent := point - 1
    let fraction := if digits.length = 1 then [] else '.' :: digits.drop 1
    digits.take 1 ++ fraction ++ 'e' :: (if exponent < 0 then '-' else '+')
      :: Nat.toDigits 10 exponent.natAbs

def text (x : Binary64) : String :=
  let sign := if x.negative then ['-'] else []
  if x.significand = 0 then String.ofList (sign ++ ['0', '.', '0'])
  else
    let d := x.shortest
    let digits := Nat.toDigits 10 d.digits
    let trailing := (digits.reverse.takeWhile (· = '0')).length
    let kept := digits.take (digits.length - trailing)
    String.ofList (sign ++ decimalText kept (d.power + trailing))

end Binary64

end Conformance.Json
