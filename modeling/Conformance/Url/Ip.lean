import Conformance.Text.Quoted
import Conformance.Text.Split
import Conformance.Url.Percent

/-!
Internet addresses as hosts. A version 4 address has one to four numbers in decimal, octal or
hexadecimal, of which the last one fills the bytes that are left. A version 6 address has eight
pieces of 16 bits, of which one run of zeros may be left out.
-/

namespace Conformance.Url

/-- The base that leading characters announce, and the digits after them. -/
def splitBase : List Char → Nat × List Char
  | '0' :: 'x' :: rest => (16, rest)
  | '0' :: 'X' :: rest => (16, rest)
  | '0' :: c :: rest => (8, c :: rest)
  | cs => (10, cs)

/-- One number of a version 4 address. Nothing after the mark of a base means zero. -/
def ipv4Number (cs : List Char) : Option Nat :=
  if cs.isEmpty then none
  else
    let (base, digits) := splitBase cs
    Text.ofDigits base digits

/-- The parts between dots, without an empty last one. -/
def dottedParts (cs : List Char) : List (List Char) :=
  let parts := Text.splitAt '.' cs
  if parts.getLast? = some [] then parts.dropLast else parts

/-- Such a host is an address of version 4 or an error, never a name. -/
def endsInNumber (cs : List Char) : Bool :=
  match (dottedParts cs).getLast? with
  | none => false
  | some last => (!last.isEmpty && last.all Char.isDigit) || (ipv4Number last).isSome

/-- All but the last number are single bytes. -/
def ofIpv4Numbers (place : Nat) : List Nat → Option Nat
  | [] => none
  | [last] => if last < 1 <<< (8 * place) then some last else none
  | n :: rest =>
    if n < 256 then (ofIpv4Numbers (place - 1) rest).map ((n <<< (8 * (place - 1))) + ·) else none

def readIpv4 (cs : List Char) : Option Nat := do
  let parts := dottedParts cs
  if 4 < parts.length then none
  else ofIpv4Numbers 4 (← parts.mapM ipv4Number)

def writeIpv4 (address : Nat) : List Char :=
  let byte (k : Nat) := Nat.toDigits 10 ((address >>> (8 * k)) % 256)
  byte 3 ++ '.' :: byte 2 ++ '.' :: byte 1 ++ '.' :: byte 0

/-- A piece of a version 6 address: one to four hexadecimal digits. -/
def ipv6Piece (cs : List Char) : Option Nat :=
  if cs.isEmpty ∨ 4 < cs.length then none else Text.ofDigits 16 cs

/-- A byte in decimal without leading zeros. -/
def plainByte (cs : List Char) : Option Nat := do
  if cs.isEmpty ∨ (1 < cs.length ∧ cs.head? = some '0') then none
  else
    let n ← Text.ofDigits 10 cs
    if n < 256 then some n else none

/-- The last two pieces may be written as four bytes. -/
def ipv6Tail (cs : List Char) : Option (List Nat) :=
  if cs.contains '.' then do
    match ← (Text.splitAt '.' cs).mapM plainByte with
    | [a, b, c, d] => some [a * 256 + b, c * 256 + d]
    | _ => none
  else (ipv6Piece cs).map ([·])

/-- Pieces between colons; `none` of them for the empty text. -/
def ipv6Pieces (isEnd : Bool) (cs : List Char) : Option (List Nat) :=
  if cs.isEmpty then some []
  else
    let groups := Text.splitAt ':' cs
    do
      let front ← groups.dropLast.mapM ipv6Piece
      let last ← (if isEnd then ipv6Tail else fun g => (ipv6Piece g).map ([·])) (groups.getLastD [])
      some (front ++ last)

/-- The parts before and after the first pair of colons. -/
def cutDoubleColon : List Char → Option (List Char × List Char)
  | ':' :: ':' :: rest => some ([], rest)
  | c :: rest => (cutDoubleColon rest).map fun (before, after) => (c :: before, after)
  | [] => none

/-- A pair of colons stands for at least one piece. -/
def readIpv6 (cs : List Char) : Option (List Nat) :=
  match cutDoubleColon cs with
  | none => do
    let pieces ← ipv6Pieces true cs
    if pieces.length = 8 then some pieces else none
  | some (before, after) => do
    let front ← ipv6Pieces false before
    let back ← ipv6Pieces true after
    let given := front.length + back.length
    if given < 8 then some (front ++ List.replicate (8 - given) 0 ++ back) else none

/-- Start and length of the first of the longest runs of zeros in pieces that start at `index`. -/
def longestZeros (index : Nat) : List Nat → Nat × Nat
  | [] => (index, 0)
  | piece :: pieces =>
    let run := ((piece :: pieces).takeWhile (· = 0)).length
    let (start, length) := longestZeros (index + 1) pieces
    if length ≤ run then (index, run) else (start, length)

def writePieces (pieces : List Nat) : List Char :=
  Text.joinWith ':' (pieces.map Text.hex)

/-- The longest run of at least two zeros is left out. -/
def writeIpv6 (pieces : List Nat) : List Char :=
  let (start, length) := longestZeros 0 pieces
  if length < 2 then writePieces pieces
  else writePieces (pieces.take start) ++ ':' :: ':' :: writePieces (pieces.drop (start + length))

end Conformance.Url
