import Conformance.Json.Value
import Conformance.Text.Digit

/-!
TOML numbers, words, dates and times. Each is read from the whole of a word: the text up to the
next character that cannot belong to one.
-/

namespace Conformance.Toml

open Json (Binary64)

def isWordChar (c : Char) : Bool :=
  c.isAlphanum || c = '+' || c = '-' || c = '_' || c = '.' || c = ':'

/-! ### Numbers -/

/-- Digits with single underscores between them, without the underscores. -/
def ungrouped (isDigit : Char → Bool) : List Char → Option (List Char)
  | [] => none
  | [d] => if isDigit d then some [d] else none
  | d :: '_' :: rest => if isDigit d then (ungrouped isDigit rest).map (d :: ·) else none
  | d :: rest => if isDigit d then (ungrouped isDigit rest).map (d :: ·) else none

/-- Grouped digits in a base. -/
def grouped (base : Nat) (cs : List Char) : Option Nat :=
  (ungrouped (Text.isDigitIn base) cs).bind (Text.ofDigits base)

/-- A decimal number has no leading zero. -/
def decimal (cs : List Char) : Option Nat := do
  let digits ← ungrouped Char.isDigit cs
  if 1 < digits.length ∧ digits.head? = some '0' then none
  else Text.ofDigits 10 digits

def splitSign : List Char → Bool × List Char
  | '-' :: rest => (true, rest)
  | '+' :: rest => (false, rest)
  | cs => (false, cs)

/-- Integers have 64 bits with sign. -/
def fit (n : Int) : Option Int :=
  if Int64.minValue.toInt ≤ n ∧ n ≤ Int64.maxValue.toInt then some n else none

def integer : List Char → Option Int
  | '0' :: 'x' :: rest => (grouped 16 rest).bind fun n => fit n
  | '0' :: 'o' :: rest => (grouped 8 rest).bind fun n => fit n
  | '0' :: 'b' :: rest => (grouped 2 rest).bind fun n => fit n
  | cs => do
    let (negative, digits) := splitSign cs
    let n ← decimal digits
    fit (if negative then -n else n)

/-- The number `digits · 10 ^ exponent`. Beyond the largest number there is only minus infinity,
which stands here as zero: no setting is a number with a fraction. -/
def scaled (negative : Bool) (digits : Nat) (exponent : Int) : Option Binary64 :=
  let size : Int := (Nat.toDigits 10 digits).length + exponent
  if digits = 0 ∨ size < -400 then some .zero
  else
    let magnitude :=
      if 400 < size then none
      else if 0 ≤ exponent then Binary64.ofRatio (digits * Binary64.tenTo exponent.toNat) 1
      else Binary64.ofRatio digits (Binary64.tenTo (-exponent).toNat)
    match magnitude with
    | some x => some (if negative then x.neg else x)
    | none => if negative then some .zero else none

def exponentValue (cs : List Char) : Option Int := do
  let (negative, digits) := splitSign cs
  let n ← grouped 10 digits
  some (if negative then -(n : Int) else n)

def isExponentMark (c : Char) : Bool := c = 'e' || c = 'E'

/-- A number with a fraction, an exponent or both. -/
def fractional (negative : Bool) (cs : List Char) : Option Binary64 := do
  let mantissa := cs.takeWhile (!isExponentMark ·)
  let exponent ← match cs.dropWhile (!isExponentMark ·) with
    | [] => some 0
    | _ :: rest => exponentValue rest
  let whole ← decimal (mantissa.takeWhile (· ≠ '.'))
  match mantissa.dropWhile (· ≠ '.') with
  | [] =>
    if mantissa.length = cs.length then none else scaled negative whole exponent
  | _ :: rest =>
    let fraction ← ungrouped Char.isDigit rest
    let digits := whole * Binary64.tenTo fraction.length + (← Text.ofDigits 10 fraction)
    scaled negative digits (exponent - fraction.length)

/-- What stands in the place of the numbers that have no value. -/
def float (cs : List Char) : Option Binary64 :=
  let (negative, rest) := splitSign cs
  if rest = ['i', 'n', 'f'] ∨ rest = ['n', 'a', 'n'] then some .zero
  else fractional negative rest

/-! ### Dates and times -/

/-- A number of exactly `count` digits. -/
def fixedDigits (count : Nat) (cs : List Char) : Option Nat :=
  if cs.length = count ∧ cs.all Char.isDigit then Text.ofDigits 10 cs else none

def isLeapYear (year : Nat) : Bool :=
  year % 4 = 0 && (year % 100 ≠ 0 || year % 400 = 0)

def daysIn (year month : Nat) : Nat :=
  if month = 2 then (if isLeapYear year then 29 else 28)
  else if [4, 6, 9, 11].contains month then 30
  else 31

/-- Year, month and day between hyphens. -/
def isDate : List Char → Bool
  | y₁ :: y₂ :: y₃ :: y₄ :: '-' :: m₁ :: m₂ :: '-' :: day =>
    match fixedDigits 4 [y₁, y₂, y₃, y₄], fixedDigits 2 [m₁, m₂], fixedDigits 2 day with
    | some y, some m, some d => 1 ≤ m && m ≤ 12 && 1 ≤ d && d ≤ daysIn y m
    | _, _, _ => false
  | _ => false

def isClock (hour minute : List Char) : Bool :=
  (fixedDigits 2 hour).any (· < 24) && (fixedDigits 2 minute).any (· < 60)

def isFraction : List Char → Bool
  | [] => true
  | '.' :: digits => !digits.isEmpty && digits.all Char.isDigit
  | _ => false

/-- Hour, minute and second; a minute may have a leap second. -/
def isTime : List Char → Bool
  | h₁ :: h₂ :: ':' :: m₁ :: m₂ :: ':' :: s₁ :: s₂ :: fraction =>
    isClock [h₁, h₂] [m₁, m₂] && (fixedDigits 2 [s₁, s₂]).any (· ≤ 60) && isFraction fraction
  | _ => false

def isOffset : List Char → Bool
  | [z] => z = 'Z' || z = 'z'
  | sign :: h₁ :: h₂ :: ':' :: minute => (sign = '+' || sign = '-') && isClock [h₁, h₂] minute
  | _ => false

def isOffsetMark (c : Char) : Bool :=
  c = 'Z' || c = 'z' || c = '+' || c = '-'

/-- A time with or without an offset. -/
def isZonedTime (cs : List Char) : Bool :=
  let offset := cs.dropWhile (!isOffsetMark ·)
  isTime (cs.takeWhile (!isOffsetMark ·)) && (offset.isEmpty || isOffset offset)

/-- A date, a time, or both with a separator between them. -/
def isMoment (cs : List Char) : Bool :=
  isTime cs || isDate cs ||
    (isDate (cs.take 10) && (cs.drop 10).head?.any (['T', 't', ' '].contains ·)
      && isZonedTime (cs.drop 11))

/-- A moment is no text and no number: it is an object with one member. -/
def moment (cs : List Char) : Json :=
  .object [("$__toml_private_datetime", .string (String.ofList cs))]

/-- The value of a word. -/
def word (cs : List Char) : Option Json :=
  if cs = ['t', 'r', 'u', 'e'] then some (.bool true)
  else if cs = ['f', 'a', 'l', 's', 'e'] then some (.bool false)
  else if isMoment cs then some (moment cs)
  else
    ((integer cs).map fun n => Json.number (.integer n)).or
      ((float cs).map fun x => .number (.float x))

end Conformance.Toml
