import Conformance.Text.Split
import Conformance.Url.Percent

/-!
Queries as forms: pairs of a name and a value, joined by ampersands. A space is written as a plus
sign; of the other characters only letters, digits and four marks stand for themselves.
-/

namespace Conformance.Url.Form

def isKept (c : Char) : Bool :=
  c.isAlphanum || c = '*' || c = '-' || c = '.' || c = '_'

def encode (cs : List Char) : List Char :=
  cs.flatMap fun c => if c = ' ' then ['+'] else percentEncode isKept [c]

def encodePair (name value : List Char) : List Char :=
  encode name ++ '=' :: encode value

/-- A pair is put after the ones a query has. -/
def append (query : List Char) (name value : List Char) : List Char :=
  if query.isEmpty then encodePair name value else query ++ '&' :: encodePair name value

def decode (cs : List Char) : List UInt8 :=
  percentDecode (cs.map fun c => if c = '+' then ' ' else c)

/-- A part without an equals sign is a name with an empty value. -/
def decodePair (part : List Char) : List UInt8 × List UInt8 :=
  match Text.cutAt '=' part with
  | some (name, value) => (decode name, decode value)
  | none => (decode part, [])

/-- The pairs of a query, as bytes. Empty parts are no pairs. -/
def pairs (query : List Char) : List (List UInt8 × List UInt8) :=
  ((Text.splitAt '&' query).filter (!·.isEmpty)).map decodePair

end Conformance.Url.Form
