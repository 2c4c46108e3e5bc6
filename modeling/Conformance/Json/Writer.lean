import Conformance.Json.Value
import Conformance.Text.Quoted

/-!
JSON text: on one line without spaces, or indented by two spaces per level. Members come in the
order in which the value holds them.
-/

namespace Conformance.Json

/-- How a character is written within quotation marks. -/
def escapedChar (c : Char) : List Char :=
  if c = '"' ∨ c = '\\' then ['\\', c]
  else if c = '\x08' then ['\\', 'b']
  else if c = '\t' then ['\\', 't']
  else if c = '\n' then ['\\', 'n']
  else if c = '\x0c' then ['\\', 'f']
  else if c = '\r' then ['\\', 'r']
  else if c.toNat < 0x20 then
    ['\\', 'u', '0', '0', Text.hexDigit (c.toNat / 16), Text.hexDigit (c.toNat % 16)]
  else [c]

def writeString (s : String) : List Char :=
  '"' :: s.toList.flatMap escapedChar ++ ['"']

def writeInt (n : Int) : List Char :=
  if n < 0 then '-' :: Nat.toDigits 10 n.natAbs else Nat.toDigits 10 n.natAbs

def writeNumber : Number → List Char
  | .integer n => writeInt n
  | .float x => x.text.toList

mutual

def write : Json → List Char
  | .null => ['n', 'u', 'l', 'l']
  | .bool true => ['t', 'r', 'u', 'e']
  | .bool false => ['f', 'a', 'l', 's', 'e']
  | .number n => writeNumber n
  | .string s => writeString s
  | .array items => '[' :: writeItems items ++ [']']
  | .object members => '\x7b' :: writeMembers members ++ ['\x7d']

def writeItems : List Json → List Char
  | [] => []
  | item :: items => write item ++ writeMoreItems items

def writeMoreItems : List Json → List Char
  | [] => []
  | item :: items => ',' :: write item ++ writeMoreItems items

def writeMembers : List (String × Json) → List Char
  | [] => []
  | (key, value) :: members => writeString key ++ ':' :: write value ++ writeMoreMembers members

def writeMoreMembers : List (String × Json) → List Char
  | [] => []
  | (key, value) :: members =>
    ',' :: writeString key ++ ':' :: write value ++ writeMoreMembers members

end

/-- The shortest JSON text of a value. -/
def compact (value : Json) : String :=
  String.ofList (write value)

def newLine (level : Nat) : List Char :=
  '\n' :: List.replicate (2 * level) ' '

mutual

/-- A value whose closing bracket stands at indentation `level`. Empty lists and objects stay on
one line. -/
def writeIndented (level : Nat) : Json → List Char
  | .array (item :: items) =>
    '[' :: newLine (level + 1) ++ writeIndented (level + 1) item
      ++ indentedItems (level + 1) items ++ newLine level ++ [']']
  | .object ((key, value) :: members) =>
    '\x7b' :: newLine (level + 1) ++ writeString key ++ ':' :: ' '
      :: writeIndented (level + 1) value ++ indentedMembers (level + 1) members
      ++ newLine level ++ ['\x7d']
  | .array [] => ['[', ']']
  | .object [] => ['\x7b', '\x7d']
  | .null => ['n', 'u', 'l', 'l']
  | .bool true => ['t', 'r', 'u', 'e']
  | .bool false => ['f', 'a', 'l', 's', 'e']
  | .number n => writeNumber n
  | .string s => writeString s

def indentedItems (level : Nat) : List Json → List Char
  | [] => []
  | item :: items =>
    ',' :: newLine level ++ writeIndented level item ++ indentedItems level items

def indentedMembers (level : Nat) : List (String × Json) → List Char
  | [] => []
  | (key, value) :: members =>
    ',' :: newLine level ++ writeString key ++ ':' :: ' ' :: writeIndented level value
      ++ indentedMembers level members

end

/-- One member or element a line. -/
def pretty (value : Json) : String :=
  String.ofList (writeIndented 0 value)

end Conformance.Json
