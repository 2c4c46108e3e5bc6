import Conformance.Text.Blank
import Conformance.Text.Split

/-!
Bytes of a response as text. The content type names the charset, a byte order mark at the start
overrules it, and bytes that stand for no character are replaced.
-/

namespace Conformance.Transport

inductive Charset where
  | utf8
  | windows1252
  | utf16 (isBigEndian : Bool)
deriving DecidableEq, Repr

def replacement : Char := '\uFFFD'

/-! ### UTF-8 -/

namespace Utf8

/-- Where a reader stands: within a character, some bytes are owed, and the next one has bounds. -/
structure State where
  owed : Nat
  low : Nat
  high : Nat
  /-- The number that the bytes of the character so far amount to. -/
  value : Nat
deriving DecidableEq, Repr

def between : State := ⟨0, 0x80, 0xBF, 0⟩

/-- The first byte of a character. -/
def first (b : Nat) : State × List Char :=
  if b < 0x80 then (between, [Char.ofNat b])
  else if 0xC2 ≤ b ∧ b ≤ 0xDF then (⟨1, 0x80, 0xBF, b - 0xC0⟩, [])
  else if 0xE0 ≤ b ∧ b ≤ 0xEF then
    (⟨2, if b = 0xE0 then 0xA0 else 0x80, if b = 0xED then 0x9F else 0xBF, b - 0xE0⟩, [])
  else if 0xF0 ≤ b ∧ b ≤ 0xF4 then
    (⟨3, if b = 0xF0 then 0x90 else 0x80, if b = 0xF4 then 0x8F else 0xBF, b - 0xF0⟩, [])
  else (between, [replacement])

/-- A byte that cannot follow ends the character before it and is read again as a first one. -/
def next (s : State) (b : Nat) : State × List Char :=
  if s.owed = 0 then first b
  else if s.low ≤ b ∧ b ≤ s.high then
    let value := s.value * 64 + (b - 0x80)
    if s.owed = 1 then (between, [Char.ofNat value])
    else (⟨s.owed - 1, 0x80, 0xBF, value⟩, [])
  else
    let (s, cs) := first b
    (s, replacement :: cs)

/-- What is left of a character at the end. -/
def rest (s : State) : List Char :=
  if s.owed = 0 then [] else [replacement]

def decode (bytes : List Nat) : List Char :=
  let (s, read) := bytes.foldl
    (fun (s, read) b => let (s, cs) := next s b; (s, cs.reverse ++ read)) (between, [])
  read.reverse ++ rest s

end Utf8

/-! ### Windows code page 1252 -/

/-- The characters of the bytes from 80 to 9F. All other bytes are their own code points. -/
def windowsMiddle : List Nat := [
  0x20AC, 0x81, 0x201A, 0x192, 0x201E, 0x2026, 0x2020, 0x2021, 0x2C6, 0x2030, 0x160, 0x2039, 0x152,
  0x8D, 0x17D, 0x8F, 0x90, 0x2018, 0x2019, 0x201C, 0x201D, 0x2022, 0x2013, 0x2014, 0x2DC, 0x2122,
  0x161, 0x203A, 0x153, 0x9D, 0x17E, 0x178]

def windowsChar (b : Nat) : Char :=
  if 0x80 ≤ b then Char.ofNat (windowsMiddle.getD (b - 0x80) b) else Char.ofNat b

/-! ### UTF-16 -/

namespace Utf16

/-- Pairs of bytes as numbers; `none` for a byte that is left alone at the end. -/
def units (isBigEndian : Bool) : List Nat → List (Option Nat)
  | [] => []
  | [_] => [none]
  | a :: b :: rest =>
    some (if isBigEndian then a * 256 + b else b * 256 + a) :: units isBigEndian rest

def isHigh (n : Nat) : Bool := 0xD800 ≤ n && n ≤ 0xDBFF

def isLow (n : Nat) : Bool := 0xDC00 ≤ n && n ≤ 0xDFFF

/-- Two surrogates make a character; one alone is replaced. -/
def decodeUnits : List (Option Nat) → List Char
  | some a :: some b :: rest =>
    if isHigh a && isLow b then
      Char.ofNat (0x10000 + (a - 0xD800) * 0x400 + (b - 0xDC00)) :: decodeUnits rest
    else
      (if isHigh a || isLow a then replacement else Char.ofNat a) :: decodeUnits (some b :: rest)
  | some a :: rest =>
    (if isHigh a || isLow a then replacement else Char.ofNat a) :: decodeUnits rest
  | none :: rest => replacement :: decodeUnits rest
  | [] => []

end Utf16

/-! ### Choosing the charset -/

namespace Charset

def names : List (Charset × List String) := [
  (utf8, ["utf-8", "utf8", "unicode-1-1-utf-8", "unicode11utf8", "unicode20utf8",
    "x-unicode20utf8"]),
  (windows1252, ["ansi_x3.4-1968", "ascii", "cp1252", "cp819", "csisolatin1", "ibm819",
    "iso-8859-1", "iso-ir-100", "iso8859-1", "iso88591", "iso_8859-1", "iso_8859-1:1987", "l1",
    "latin1", "us-ascii", "windows-1252", "x-cp1252"]),
  (utf16 false, ["csunicode", "iso-10646-ucs-2", "ucs-2", "unicode", "unicodefeff", "utf-16",
    "utf-16le"]),
  (utf16 true, ["unicodefffe", "utf-16be"])]

/-- The charset with a name in any capitalisation. Unknown ones count as UTF-8. -/
def ofName (name : String) : Charset :=
  ((names.find? fun (_, ns) => ns.contains (Text.lowerAscii (Text.trim name))).map (·.1)).getD utf8

def unquote (cs : List Char) : List Char :=
  match cs with
  | '"' :: rest => rest.takeWhile (· ≠ '"')
  | cs => cs

/-- The value of a parameter of a content type. -/
def parameter? (name : String) (contentType : String) : Option String :=
  (((Text.splitAt ';' contentType.toList).drop 1).filterMap (Text.cutAt '=')).findSome?
    fun (key, value) =>
      if Text.lowerAscii (Text.trim (String.ofList key)) = name then
        some (String.ofList (unquote (Text.trimBy Text.isBlank value)))
      else none

def ofContentType (contentType : Option String) : Charset :=
  ((contentType.bind (parameter? "charset")).map ofName).getD utf8

/-- The charset that a byte order mark stands for, and the bytes after the mark. -/
def ofMark : List Nat → Option (Charset × List Nat)
  | 0xEF :: 0xBB :: 0xBF :: rest => some (utf8, rest)
  | 0xFF :: 0xFE :: rest => some (utf16 false, rest)
  | 0xFE :: 0xFF :: rest => some (utf16 true, rest)
  | _ => none

def decode (c : Charset) (bytes : List Nat) : List Char :=
  match c with
  | utf8 => Utf8.decode bytes
  | windows1252 => bytes.map windowsChar
  | utf16 isBigEndian => Utf16.decodeUnits (Utf16.units isBigEndian bytes)

end Charset

/-- The text of a body. -/
def decodeBody (contentType : Option String) (bytes : List UInt8) : String :=
  let codes := bytes.map UInt8.toNat
  let (charset, codes) := (Charset.ofMark codes).getD (Charset.ofContentType contentType, codes)
  String.ofList (charset.decode codes)

end Conformance.Transport
