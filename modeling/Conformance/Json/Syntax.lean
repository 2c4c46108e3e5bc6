import Conformance.Json.Value

/-!
Why a text is no JSON document, and where in the text that shows.
-/

namespace Conformance.Json

inductive SyntaxFault where
  | endInList
  | endInObject
  | endInString
  | endInValue
  | colonMissing
  | listSeparatorMissing
  | objectSeparatorMissing
  | unknownWord
  | noValue
  | badEscape
  | badNumber
  | numberTooLarge
  | controlInString
  | keyNotString
  | loneSurrogate
  | brokenSurrogatePair
  | trailingComma
  | trailingText
  | tooDeep
deriving DecidableEq, Repr

def SyntaxFault.message : SyntaxFault → String
  | endInList => "EOF while parsing a list"
  | endInObject => "EOF while parsing an object"
  | endInString => "EOF while parsing a string"
  | endInValue => "EOF while parsing a value"
  | colonMissing => "expected `:`"
  | listSeparatorMissing => "expected `,` or `]`"
  | objectSeparatorMissing => "expected `,` or `\x7d`"
  | unknownWord => "expected ident"
  | noValue => "expected value"
  | badEscape => "invalid escape"
  | badNumber => "invalid number"
  | numberTooLarge => "number out of range"
  | controlInString => "control character (\\u0000-\\u001F) found while parsing a string"
  | keyNotString => "key must be a string"
  | loneSurrogate => "lone leading surrogate in hex escape"
  | brokenSurrogatePair => "unexpected end of hex escape"
  | trailingComma => "trailing comma"
  | trailingText => "trailing characters"
  | tooDeep => "recursion limit exceeded"

/-- Where reading stopped: the text still unread, and how many of its bytes the fault takes in. -/
structure Stop where
  fault : SyntaxFault
  unread : List Char
  ahead : Nat
deriving DecidableEq, Repr

def byteSize (cs : List Char) : Nat :=
  cs.foldl (fun size c => size + c.utf8Size) 0

/-- Lines are numbered from one and separated by line feeds, columns count bytes since the last
line feed. -/
structure SyntaxError where
  fault : SyntaxFault
  line : Nat
  column : Nat
deriving DecidableEq, Repr

def SyntaxError.message (e : SyntaxError) : String :=
  s!"{e.fault.message} at line {e.line} column {e.column}"

/-- Line and column after the first `bytes` bytes. -/
def locate (line column : Nat) : Nat → List Char → Nat × Nat
  | _, [] => (line, column)
  | bytes, c :: cs =>
    if bytes < c.utf8Size then (line, column + bytes)
    else if c = '\n' then locate (line + 1) 0 (bytes - 1) cs
    else locate line (column + c.utf8Size) (bytes - c.utf8Size) cs

/-- No position lies beyond the end of the text. -/
def Stop.locateIn (stop : Stop) (text : List Char) : SyntaxError :=
  let bytes := byteSize text - byteSize stop.unread + stop.ahead
  let (line, column) := locate 1 0 bytes text
  ⟨stop.fault, line, column⟩

end Conformance.Json
