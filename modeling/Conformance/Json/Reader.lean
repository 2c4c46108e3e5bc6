import Conformance.Json.Syntax
import Conformance.Text.Digit
import Conformance.Text.Rest

/-!
Reading JSON text. Each reader takes the text from its own first character on and returns what it
read with the shorter rest. At most 127 brackets may be open at once.
-/

namespace Conformance.Json

open Text (Rest Remainder)

/-- A reader takes at least one character. -/
abbrev Reading (α : Type) (s : List Char) := Except Stop (α × Rest s)

/-- A fault seen before the next character, which is named but not read. -/
def stopBefore {α : Type} (fault : SyntaxFault) (unread : List Char) : Except Stop α :=
  .error ⟨fault, unread, 1⟩

/-- A fault of the whole text read so far. -/
def stopAt {α : Type} (fault : SyntaxFault) (unread : List Char) : Except Stop α :=
  .error ⟨fault, unread, 0⟩

def isSpace (c : Char) : Bool :=
  c = ' ' || c = '\n' || c = '\t' || c = '\r'

def skipSpace (s : List Char) : Remainder s :=
  .dropWhile isSpace s

def digitValue (c : Char) : Nat :=
  c.toNat - '0'.toNat

/-! ### Numbers -/

/-- Appends decimal digits while the number fits 64 bits; the rest is left over. -/
def absorb (significand : Nat) : List Char → Nat × List Char
  | [] => (significand, [])
  | d :: ds =>
    let next := significand * 10 + digitValue d
    if next < UInt64.size then absorb next ds else (significand, d :: ds)

def signed (negative : Bool) (x : Binary64) : Binary64 :=
  if negative then x.neg else x

/-- The number `± significand · 10 ^ exponent` read up to `s`. -/
def scaled (negative : Bool) (significand : Nat) (exponent : Int) (s : List Char) :
    Except Stop Number :=
  match Binary64.ofScientific significand exponent with
  | some x => .ok (.float (signed negative x))
  | none => stopAt .numberTooLarge s

/-- The value of exponent digits and the text after the digit that takes it beyond 31 bits. -/
def exponentValue (value : Nat) : List Char → Except (List Char) Nat
  | [] => .ok value
  | d :: ds =>
    let next := value * 10 + digitValue d
    if next ≤ Int32.maxValue.toNatClampNeg then exponentValue next ds else .error ds

/-- An exponent beyond 31 bits is an overflow, unless the result is zero anyway. -/
def hugeExponent (negative upward : Bool) (significand : Nat) (unread : List Char) :
    Except Stop Number :=
  if significand ≠ 0 ∧ upward then stopAt .numberTooLarge unread
  else .ok (.float (signed negative .zero))

/-- The digits of an exponent; `exponent` is what the digits before it amount to. -/
def exponentDigits (negative upward : Bool) (significand : Nat) (exponent : Int)
    (s : List Char) : Except Stop (Number × Remainder s) := do
  let digits := s.takeWhile Char.isDigit
  let rest := Remainder.dropWhile Char.isDigit s
  if s.isEmpty then stopAt .endInValue s
  else if digits.isEmpty then stopBefore .badNumber s
  else
    let value ← match exponentValue 0 digits with
      | .ok value =>
        scaled negative significand (if upward then exponent + value else exponent - value)
          rest.val
      | .error left => hugeExponent negative upward significand (left ++ rest.val)
    pure (value, rest)

/-- An exponent may have a sign. -/
def exponentPart (negative : Bool) (significand : Nat) (exponent : Int) (s : List Char) :
    Except Stop (Number × Remainder s) :=
  match s with
  | '-' :: rest => do
    let (value, left) ← exponentDigits negative false significand exponent rest
    pure (value, (left.behind '-').toRemainder)
  | '+' :: rest => do
    let (value, left) ← exponentDigits negative true significand exponent rest
    pure (value, (left.behind '+').toRemainder)
  | rest => exponentDigits negative true significand exponent rest

/-- What follows the digits before an exponent. -/
def exponentOrEnd (negative : Bool) (significand : Nat) (exponent : Int) (s : List Char) :
    Except Stop (Number × Remainder s) :=
  match s with
  | 'e' :: rest => do
    let (value, left) ← exponentPart negative significand exponent rest
    pure (value, (left.behind 'e').toRemainder)
  | 'E' :: rest => do
    let (value, left) ← exponentPart negative significand exponent rest
    pure (value, (left.behind 'E').toRemainder)
  | rest => do
    let value ← scaled negative significand exponent rest
    pure (value, .whole rest)

/-- Integers of 64 bits, with or without sign, stay integers; a negative zero needs a sign bit. -/
def wholeNumber (negative : Bool) (significand : Nat) (s : List Char) : Except Stop Number :=
  if ¬ negative then .ok (.integer significand)
  else if 0 < significand ∧ Int64.minValue.toInt ≤ -significand then
    .ok (.integer (-significand))
  else scaled negative significand 0 s

/-- The digits after a decimal point, of which there is at least one. -/
def fractionPart (negative : Bool) (significand dropped : Nat) (s : List Char) :
    Except Stop (Number × Remainder s) := do
  let digits := s.takeWhile Char.isDigit
  let rest := Remainder.dropWhile Char.isDigit s
  if s.isEmpty then stopAt .endInValue s
  else if digits.isEmpty then stopBefore .badNumber s
  else
    let (significand, surplus) := absorb significand digits
    let exponent : Int := dropped - (digits.length - surplus.length : Nat)
    let (value, left) ← exponentOrEnd negative significand exponent rest.val
    pure (value, rest.upTo left)

/-- What follows the first digits. Digits that did not fit 64 bits only scale. -/
def afterDigits (negative : Bool) (significand dropped : Nat) (s : List Char) :
    Except Stop (Number × Remainder s) :=
  match s with
  | '.' :: fraction => do
    let (value, left) ← fractionPart negative significand dropped fraction
    pure (value, (left.behind '.').toRemainder)
  | 'e' :: rest => exponentOrEnd negative significand dropped ('e' :: rest)
  | 'E' :: rest => exponentOrEnd negative significand dropped ('E' :: rest)
  | rest => do
    let value ← if dropped = 0 then wholeNumber negative significand rest
      else scaled negative significand dropped rest
    pure (value, .whole rest)

/-- Digits after a leading zero are refused. -/
def numeral (negative : Bool) (s : List Char) : Reading Number s :=
  match s with
  | [] => stopAt .endInValue []
  | c :: cs => do
    let digits := cs.takeWhile Char.isDigit
    let rest := Remainder.dropWhile Char.isDigit cs
    if ¬ c.isDigit then stopBefore .badNumber (c :: cs)
    else if c = '0' ∧ ¬ digits.isEmpty then stopBefore .badNumber cs
    else
      let (significand, surplus) := absorb 0 (c :: digits)
      let (value, left) ← afterDigits negative significand surplus.length rest.val
      pure (value, (rest.upTo left).behind c)

/-! ### Strings -/

/-- Four hexadecimal digits: one UTF-16 unit. A fault takes in four bytes. -/
def utf16Unit (s : List Char) : Reading Nat s :=
  match s with
  | a :: b :: c :: d :: rest =>
    match Text.ofDigits 16 [a, b, c, d] with
    | some unit => .ok (unit, ((((Rest.tail d rest).behind c).behind b).behind a))
    | none => .error ⟨.badEscape, s, 4⟩
  | _ => if byteSize s < 4 then stopAt .endInString [] else .error ⟨.badEscape, s, 4⟩

/-- One more character must be there and be `wanted`. -/
def pairMark (wanted : Char) (s : List Char) : Reading Unit s :=
  match s with
  | [] => stopAt .endInString []
  | c :: rest =>
    if c = wanted then .ok ((), .tail c rest)
    else stopBefore .brokenSurrogatePair (c :: rest)

/-- A leading surrogate needs a trailing one right after it, and the other way round. -/
def unicodeEscape (s : List Char) : Reading Char s := do
  let (unit, rest) ← utf16Unit s
  if 0xDC00 ≤ unit ∧ unit ≤ 0xDFFF then stopAt .loneSurrogate rest.val
  else if 0xD800 ≤ unit ∧ unit ≤ 0xDBFF then
    let ((), afterMark) ← pairMark '\\' rest.val
    let ((), afterLetter) ← pairMark 'u' afterMark.val
    let (low, left) ← utf16Unit afterLetter.val
    if 0xDC00 ≤ low ∧ low ≤ 0xDFFF then
      let code := (unit - 0xD800) * 0x400 + (low - 0xDC00) + 0x10000
      pure (Char.ofNat code, rest.after (afterMark.after (afterLetter.after left)))
    else stopAt .loneSurrogate left.val
  else pure (Char.ofNat unit, rest)

/-- The character a one-letter escape stands for. -/
def simpleEscape : Char → Option Char
  | '"' => some '"'
  | '\\' => some '\\'
  | '/' => some '/'
  | 'b' => some '\x08'
  | 'f' => some '\x0c'
  | 'n' => some '\n'
  | 'r' => some '\r'
  | 't' => some '\t'
  | _ => none

/-- What follows a backslash. -/
def escape (s : List Char) : Reading Char s :=
  match s with
  | [] => stopAt .endInString []
  | c :: rest =>
    if c = 'u' then do
      let (decoded, left) ← unicodeEscape rest
      pure (decoded, left.behind c)
    else match simpleEscape c with
      | some decoded => .ok (decoded, .tail c rest)
      | none => stopBefore .badEscape (c :: rest)

/-- The characters up to the closing quotation mark. -/
def stringBody (s : List Char) : Reading (List Char) s :=
  match s with
  | [] => stopAt .endInString []
  | c :: rest =>
    if c = '"' then .ok ([], .tail c rest)
    else if c = '\\' then do
      let (decoded, left) ← escape rest
      let (more, after) ← stringBody left.val
      pure (decoded :: more, (left.after after).behind c)
    else if c.toNat < 0x20 then stopBefore .controlInString (c :: rest)
    else do
      let (more, after) ← stringBody rest
      pure (c :: more, after.behind c)
termination_by s.length
decreasing_by
  · have := left.property; simp only [List.length_cons]; omega
  · simp

def stringText (s : List Char) : Reading String s := do
  let (cs, rest) ← stringBody s
  pure (String.ofList cs, rest)

/-! ### Values -/

/-- The letters of a word after its first one. -/
def word (value : Json) : List Char → (s : List Char) → Except Stop (Json × Remainder s)
  | [], s => .ok (value, .whole s)
  | _ :: _, [] => stopAt .endInValue []
  | w :: ws, c :: s =>
    if c = w then do
      let (value, left) ← word value ws s
      pure (value, (left.behind c).toRemainder)
    else stopBefore .unknownWord (c :: s)

/-- The value whose name starts with `c` and goes on in `s`. -/
def named (c : Char) (s : List Char) : Except Stop (Json × Remainder s) :=
  if c = 'n' then word .null ['u', 'l', 'l'] s
  else if c = 't' then word (.bool true) ['r', 'u', 'e'] s
  else if c = 'f' then word (.bool false) ['a', 'l', 's', 'e'] s
  else stopBefore .noValue (c :: s)

/-- What follows a comma: white space, then something other than the closing bracket. -/
def afterComma (closing : Char) (s : List Char) : Except Stop (Remainder s) :=
  match (skipSpace s).val with
  | [] => stopAt .endInValue []
  | c :: rest =>
    if c = closing then stopBefore .trailingComma (c :: rest)
    else .ok (skipSpace s)

/-- The elements after the first one, up to the closing bracket. -/
def moreItems (item : (s : List Char) → Reading Json s) (s : List Char) : Reading (List Json) s :=
  match Text.cutAfter isSpace s with
  | none => stopAt .endInList []
  | some (c, rest) =>
    if c = ']' then .ok ([], rest)
    else if c = ',' then do
      let start ← afterComma ']' rest.val
      let (value, left) ← item start.val
      let left := rest.after (start.after left)
      let (values, after) ← moreItems item left.val
      pure (value :: values, left.after after)
    else stopBefore .listSeparatorMissing (c :: rest.val)
termination_by s.length
decreasing_by exact left.property

/-- What follows an opening bracket. -/
def items (item : (s : List Char) → Reading Json s) (s : List Char) : Reading (List Json) s :=
  match Text.cutAfter isSpace s with
  | none => stopAt .endInList []
  | some (c, rest) =>
    if c = ']' then .ok ([], rest)
    else do
      let start := skipSpace s
      let (value, left) ← item start.val
      let (values, after) ← moreItems item left.val
      pure (value :: values, start.after (left.after after))

/-- A name, a colon and a value. -/
def pair (item : (s : List Char) → Reading Json s) (s : List Char) :
    Reading (String × Json) s :=
  match s with
  | [] => stopAt .endInObject []
  | c :: rest =>
    if c = '"' then do
      let (key, afterKey) ← stringText rest
      match Text.cutAfter isSpace afterKey.val with
      | none => stopAt .endInObject []
      | some (d, afterColon) =>
        if d = ':' then do
          let start := skipSpace afterColon.val
          let (value, left) ← item start.val
          pure ((key, value), (afterKey.after (afterColon.after (start.after left))).behind c)
        else stopBefore .colonMissing (d :: afterColon.val)
    else stopBefore .keyNotString (c :: rest)

/-- The members after the first one, up to the closing brace. -/
def morePairs (item : (s : List Char) → Reading Json s) (s : List Char) :
    Reading (List (String × Json)) s :=
  match Text.cutAfter isSpace s with
  | none => stopAt .endInObject []
  | some (c, rest) =>
    if c = '\x7d' then .ok ([], rest)
    else if c = ',' then do
      let start ← afterComma '\x7d' rest.val
      let (member, left) ← pair item start.val
      let left := rest.after (start.after left)
      let (members, after) ← morePairs item left.val
      pure (member :: members, left.after after)
    else stopBefore .objectSeparatorMissing (c :: rest.val)
termination_by s.length
decreasing_by exact left.property

/-- What follows an opening brace. -/
def pairs (item : (s : List Char) → Reading Json s) (s : List Char) :
    Reading (List (String × Json)) s :=
  match Text.cutAfter isSpace s with
  | none => stopAt .endInObject []
  | some (c, rest) =>
    if c = '\x7d' then .ok ([], rest)
    else do
      let start := skipSpace s
      let (member, left) ← pair item start.val
      let (members, after) ← morePairs item left.val
      pure (member :: members, start.after (left.after after))

/-- A value that starts at the first character of `s`. `inner` reads what stands in brackets; it is
absent where no more brackets may be opened. -/
def valueIn (inner : Option ((s : List Char) → Reading Json s)) (s : List Char) :
    Reading Json s :=
  match s with
  | [] => stopAt .endInValue []
  | c :: rest =>
    if c = '"' then do
      let (text, left) ← stringText rest
      pure (.string text, left.behind c)
    else if c = '[' then
      match inner with
      | none => stopBefore .tooDeep (c :: rest)
      | some item => do
        let (values, left) ← items item rest
        pure (.array values, left.behind c)
    else if c = '\x7b' then
      match inner with
      | none => stopBefore .tooDeep (c :: rest)
      | some item => do
        let (members, left) ← pairs item rest
        pure (ofMembers members, left.behind c)
    else if c = '-' then do
      let (n, left) ← numeral true rest
      pure (.number n, left.behind c)
    else if c.isDigit then do
      let (n, left) ← numeral false (c :: rest)
      pure (.number n, left)
    else do
      let (value, left) ← named c rest
      pure (value, left.behind c)

/-- A value within which `depth` more brackets may be open at once. -/
def valueWithin : Nat → (s : List Char) → Reading Json s
  | 0 => valueIn none
  | depth + 1 => valueIn (some (valueWithin depth))

def maxDepth : Nat := 127

/-- A whole document: one value between white space. -/
def readDocument (s : List Char) : Except Stop Json := do
  let (value, left) ← valueWithin maxDepth (skipSpace s).val
  match (skipSpace left.val).val with
  | [] => pure value
  | rest => stopBefore .trailingText rest

def read (text : String) : Except SyntaxError Json :=
  (readDocument text.toList).mapError (·.locateIn text.toList)

end Conformance.Json
