/-!
Punycode: a label of any characters as letters, digits and hyphens. The ASCII characters come
first; after a hyphen follow, in increasing order, the places of all others as differences in a
base of variable weights.
-/

namespace Conformance.Url.Punycode

/-- Digits up to 25 are letters, those from 26 to 35 are decimal digits. -/
def digitChar (d : Nat) : Char :=
  if d < 26 then Char.ofNat (0x61 + d) else Char.ofNat (0x30 + d - 26)

def digitValue (c : Char) : Option Nat :=
  if 'a' ≤ c ∧ c ≤ 'z' then some (c.toNat - 'a'.toNat)
  else if 'A' ≤ c ∧ c ≤ 'Z' then some (c.toNat - 'A'.toNat)
  else if '0' ≤ c ∧ c ≤ '9' then some (c.toNat - '0'.toNat + 26)
  else none

/-- The value from which on the digit at `place` is not the last one. -/
def threshold (bias place : Nat) : Nat :=
  min 26 (max 1 (place - bias))

theorem threshold_bounds (bias place : Nat) :
    1 ≤ threshold bias place ∧ threshold bias place ≤ 26 := by
  unfold threshold
  omega

def skew (delta place : Nat) : Nat :=
  if delta ≤ 455 then place + 36 * delta / (delta + 38) else skew (delta / 35) (place + 36)
termination_by delta
decreasing_by omega

/-- The bias after a difference, when `count` characters are in place. -/
def adapt (delta count : Nat) (isFirst : Bool) : Nat :=
  let delta := if isFirst then delta / 700 else delta / 2
  skew (delta + delta / count) 0

/-- A difference as digits, the least weight first. -/
def digits (bias place q : Nat) : List Char :=
  let t := threshold bias place
  if q < t then [digitChar q]
  else digitChar (t + (q - t) % (36 - t)) :: digits bias (place + 36) ((q - t) / (36 - t))
termination_by q
decreasing_by
  have := threshold_bounds bias place
  exact Nat.lt_of_le_of_lt (Nat.div_le_self _ _) (by omega)

/-- `count` characters are in place; `delta` steps were made since the last of them. -/
structure Progress where
  written : List Char
  delta : Nat
  bias : Nat
  count : Nat

/-- Passes one character of the label while the characters with code `code` are put in place. -/
def Progress.pass (ascii code : Nat) (s : Progress) (c : Char) : Progress :=
  if c.toNat < code then { s with delta := s.delta + 1 }
  else if c.toNat = code then
    ⟨s.written ++ digits s.bias 36 s.delta, 0,
      adapt s.delta (s.count + 1) (s.count = ascii), s.count + 1⟩
  else s

/-- `codes` are the codes still to be put in place, in increasing order, from `next` on. -/
def encodeCodes (label : List Char) (ascii next : Nat) : List Nat → Progress → List Char
  | [], s => s.written
  | code :: codes, s =>
    let s := { s with delta := s.delta + (code - next) * (s.count + 1) }
    let s := label.foldl (Progress.pass ascii code) s
    encodeCodes label ascii (code + 1) codes { s with delta := s.delta + 1 }

def insertCode (code : Nat) : List Nat → List Nat
  | [] => [code]
  | c :: cs =>
    if code < c then code :: c :: cs else if code = c then c :: cs else c :: insertCode code cs

def isAscii (c : Char) : Bool := c.toNat < 0x80

def encode (label : List Char) : List Char :=
  let ascii := label.filter isAscii
  let others := label.filter (!isAscii ·)
  let codes := others.foldl (fun codes c => insertCode c.toNat codes) []
  let start := if ascii.isEmpty then [] else ascii ++ ['-']
  encodeCodes label ascii.length 0x80 codes ⟨start, 0, 72, ascii.length⟩

/-- `index` is the place of the next character and `code` its code; `since` the place at which the
difference started. Digits of one difference have increasing weights. -/
structure Reading where
  label : List Char
  code : Nat
  index : Nat
  since : Nat
  bias : Nat
  weight : Nat
  place : Nat

/-- Whether a difference has just ended. -/
def Reading.isDone (r : Reading) : Bool := r.place = 36

/-- Puts a character in place at the end of a difference. -/
def Reading.finish (r : Reading) : Option Reading :=
  let count := r.label.length + 1
  let bias := adapt (r.index - r.since) count (r.since = 0)
  let code := r.code + r.index / count
  let index := r.index % count
  if h : code.isValidChar then
    some ⟨r.label.take index ++ Char.ofNatAux code h :: r.label.drop index, code, index + 1,
      index + 1, bias, 1, 36⟩
  else none

def Reading.step (r : Reading) (c : Char) : Option Reading := do
  let d ← digitValue c
  let index := r.index + d * r.weight
  if UInt32.size ≤ index then none
  else
    let t := threshold r.bias r.place
    if d < t then Reading.finish { r with index }
    else some { r with index, weight := r.weight * (36 - t), place := r.place + 36 }

/-- The parts before and after the last hyphen. -/
def cutLast (cs : List Char) : List Char × List Char :=
  if cs.contains '-' then
    let after := (cs.reverse.takeWhile (· ≠ '-')).reverse
    (cs.take (cs.length - after.length - 1), after)
  else ([], cs)

def decode (cs : List Char) : Option (List Char) := do
  let (ascii, deltas) := cutLast cs
  let r ← deltas.foldlM Reading.step ⟨ascii, 0x80, 0, 0, 72, 1, 36⟩
  if r.isDone then some r.label else none

end Conformance.Url.Punycode
