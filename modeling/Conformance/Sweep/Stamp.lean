import Conformance.Text.Split

/-!
What a report is stamped with: moments in universal time and the id of a run.
-/

namespace Conformance.Stamp

/-- `n` in decimal with zeros in front up to a width. -/
def padded (width n : Nat) : String :=
  let digits := toString n
  String.ofList (List.replicate (width - digits.length) '0') ++ digits

structure Date where
  year : Nat
  month : Nat
  day : Nat
deriving DecidableEq, Repr

/-- Days in four centuries. -/
def eraDays : Nat := 146097

/-- Days from the first of March of the year 0 to the first of January of 1970. -/
def epochDays : Nat := 719468

/-- The date a number of days after the first of January of 1970. Years are counted from March on,
so that the day that leap years add comes last. -/
def Date.ofDays (days : Nat) : Date :=
  let n := days + epochDays
  let inEra := n % eraDays
  let year := (inEra - inEra / 1460 + inEra / 36524 - inEra / 146096) / 365
  let inYear := inEra - (365 * year + year / 4 - year / 100)
  let month := (5 * inYear + 2) / 153
  let day := inYear - (153 * month + 2) / 5 + 1
  let isLate := 10 ≤ month
  ⟨n / eraDays * 400 + year + (if isLate then 1 else 0),
    if isLate then month - 9 else month + 3, day⟩

/-- Seconds since the beginning of 1970, and nanoseconds of the next one. -/
structure Moment where
  seconds : Nat
  nanoseconds : Nat
deriving DecidableEq, Repr

namespace Moment

/-- A fraction of a second in groups of three digits, as many as it needs. -/
def fractionText (nanoseconds : Nat) : String :=
  if nanoseconds = 0 then ""
  else if nanoseconds % 1000000 = 0 then "." ++ padded 3 (nanoseconds / 1000000)
  else if nanoseconds % 1000 = 0 then "." ++ padded 6 (nanoseconds / 1000)
  else "." ++ padded 9 nanoseconds

/-- Date and time, such as `1970-01-01T00:00:00Z`. -/
def text (m : Moment) : String :=
  let date := Date.ofDays (m.seconds / 86400)
  let ofDay := m.seconds % 86400
  padded 4 date.year ++ "-" ++ padded 2 date.month ++ "-" ++ padded 2 date.day ++ "T"
    ++ padded 2 (ofDay / 3600) ++ ":" ++ padded 2 (ofDay / 60 % 60) ++ ":" ++ padded 2 (ofDay % 60)
    ++ fractionText m.nanoseconds ++ "Z"

end Moment

def hexByte (b : UInt8) : String :=
  let digit (n : Nat) := if n < 10 then Char.ofNat (0x30 + n) else Char.ofNat (0x61 + (n - 10))
  String.ofList [digit (b.toNat / 16), digit (b.toNat % 16)]

/-- A random id of sixteen bytes, with the marks of such an id in two of them. -/
def runId (bytes : List UInt8) : String :=
  let byte (k : Nat) : String :=
    let b := bytes.getD k 0
    hexByte (if k = 6 then b % 16 + 0x40 else if k = 8 then b % 64 + 0x80 else b)
  let group (start count : Nat) : String :=
    String.join ((List.range count).map fun k => byte (start + k))
  String.intercalate "-" [group 0 4, group 4 2, group 6 2, group 8 2, group 10 6]

end Conformance.Stamp
