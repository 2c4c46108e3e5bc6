import Conformance.Request.Basic

/-!
Headers on the wire. Names count in small letters, and of two spellings of one name the later one
in the order of the names replaces the earlier one.
-/

namespace Conformance.Transport

/-- Letters, digits and the marks that a header name may hold. -/
def isNameChar (c : Char) : Bool :=
  c.isAlphanum || ['!', '#', '$', '%', '&', '\'', '*', '+', '-', '.', '^', '_', '`', '|',
    '~'].contains c

/-- A name has no more bytes than this. -/
def longestName : Nat := 65535

def isName (name : String) : Bool :=
  !name.isEmpty && name.utf8ByteSize ≤ longestName && name.toList.all isNameChar

/-- Controls other than the tab are refused. -/
def isValueChar (c : Char) : Bool :=
  c = '\t' || (0x20 ≤ c.toNat && c.toNat ≠ 0x7F)

def isValue (value : String) : Bool :=
  value.toList.all isValueChar

/-- Sets a header, in the place of the one it replaces. -/
def setHeader (name value : String) : Headers → Headers
  | [] => [(name, value)]
  | (n, v) :: rest =>
    if n = name then (n, value) :: rest else (n, v) :: setHeader name value rest

def lowerName (name : String) : String :=
  String.ofList (name.toList.map Char.toLower)

/-- The caller's headers with names in small letters, or the name of the first bad one. -/
def merge (kept : Headers) : Headers → Except String Headers
  | [] => .ok kept
  | (name, value) :: rest =>
    if isName name && isValue value then merge (setHeader (lowerName name) value kept) rest
    else .error name

/-- What the harness calls itself. -/
def userAgent : String := "gatecheck/0.3.0"

/-- Content type of a JSON body, which the caller cannot change. -/
def contentType : Option Body → Headers
  | some (.json _) => [("content-type", "application/json")]
  | _ => []

/-- The headers set on every request, whatever the caller asks for. -/
def fixedHeaders (body : Option Body) : Headers :=
  [("user-agent", userAgent), ("accept", "*/*")] ++ contentType body

/-- The same headers with their names in small letters. -/
def lowered (headers : Headers) : Headers := headers.map fun h => (lowerName h.1, h.2)

/-- A map of headers has no room for more. -/
def maxHeaders : Nat := 24576

def isFullMap (kept : Headers) : Bool := maxHeaders ≤ kept.length

/-- What is set in the making of all headers, in this order: the caller's headers up to the first bad
one, and the fixed ones unless there is a bad one. -/
def settings (headers : Headers) (body : Option Body) : Headers :=
  let good := headers.takeWhile fun h => isName h.1 && isValue h.2
  lowered good ++ if good.length = headers.length then fixedHeaders body else []

/-- Whether one of the headers is set where there is no room for one more, be it in the place of
another. -/
def overflows (isFull : Headers → Bool) : Headers → Headers → Bool
  | _, [] => false
  | kept, (name, value) :: rest => isFull kept || overflows isFull (setHeader name value kept) rest

/-- All headers of a request. -/
def build (headers : Headers) (body : Option Body) : Except String Headers :=
  (merge [] headers).map fun kept =>
    (fixedHeaders body).foldl (fun kept (name, value) => setHeader name value kept) kept

end Conformance.Transport
