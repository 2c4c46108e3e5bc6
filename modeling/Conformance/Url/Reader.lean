import Conformance.Text.Blank
import Conformance.Url.Basic
import Conformance.Url.Domain

/-!
Reading a URL into its normal form: small letters for scheme and host, numbers for addresses, no
usual port, no dot segments, and percent signs before every byte that may not stand by itself.
-/

namespace Conformance.Url

inductive Malformed where
  | emptyHost
  | badPort
  | badDomain
  | badIpv4
  | badIpv6
  | noScheme
  | badHostCharacter
deriving DecidableEq, Repr

def Malformed.message : Malformed → String
  | emptyHost => "empty host"
  | badPort => "invalid port number"
  | badDomain => "invalid international domain name"
  | badIpv4 => "invalid IPv4 address"
  | badIpv6 => "invalid IPv6 address"
  | noScheme => "relative URL without a base"
  | badHostCharacter => "invalid domain character"

/-! ### Scheme -/

def isLineSpace (c : Char) : Bool :=
  c = '\t' || c = '\n' || c = '\r'

/-- Controls and spaces around a URL do not count, nor do tabs and line breaks inside it. -/
def significant (text : String) : List Char :=
  (Text.trimBy (·.toNat ≤ 0x20) text.toList).filter (!isLineSpace ·)

def isSchemeChar (c : Char) : Bool :=
  c.isAlphanum || c = '+' || c = '-' || c = '.'

/-- The scheme before the first colon, and the text after the colon. -/
def cutScheme (cs : List Char) : Option (List Char × List Char) := do
  let (scheme, rest) ← Text.cutAt ':' cs
  if scheme.head?.any Char.isAlpha && scheme.all isSchemeChar then
    some (scheme.map Char.toLower, rest)
  else none

/-! ### Authority -/

def isSlash (special : Bool) (c : Char) : Bool :=
  c = '/' || (special && c = '\\')

/-- User name, password and the text after the last at sign, if there is one. -/
def cutUserInfo (authority : List Char) : Option (List Char × List Char × List Char) :=
  if authority.contains '@' then
    let host := (authority.reverse.takeWhile (· ≠ '@')).reverse
    let info := authority.take (authority.length - host.length - 1)
    let (username, password) := (Text.cutAt ':' info).getD (info, [])
    some (percentEncode keptInUserInfo username, percentEncode keptInUserInfo password, host)
  else none

/-- The host and the text from the first colon outside brackets on. -/
def cutHost (inBrackets : Bool) : List Char → List Char × List Char
  | [] => ([], [])
  | c :: cs =>
    if c = ':' ∧ ¬ inBrackets then ([], c :: cs)
    else
      let inside := if c = '[' then true else if c = ']' then false else inBrackets
      let (host, rest) := cutHost inside cs
      (c :: host, rest)

/-- The text within brackets is an address of version 6. -/
def readBracketed (cs : List Char) : Except Malformed Host :=
  if cs.getLast? = some ']' then
    match readIpv6 (cs.drop 1).dropLast with
    | some pieces => .ok (.ipv6 pieces)
    | none => .error .badIpv6
  else .error .badIpv6

def readHost (cs : List Char) : Except Malformed Host :=
  if cs.head? = some '[' then readBracketed cs
  else match domainToAscii (percentDecode cs) with
    | none => .error .badDomain
    | some [] => .error .emptyHost
    | some name =>
      if endsInNumber name then
        match readIpv4 name with
        | some address => .ok (.ipv4 address)
        | none => .error .badIpv4
      else .ok (.domain name)

def isForbiddenInOpaque (c : Char) : Bool :=
  ['\x00', '\t', '\n', '\r', ' ', '#', '/', ':', '<', '>', '?', '@', '[', '\\', ']', '^',
    '|'].contains c

/-- The host of a scheme that gives hosts no meaning. -/
def readOpaqueHost (cs : List Char) : Except Malformed Host :=
  if cs.head? = some '[' then readBracketed cs
  else if cs.any isForbiddenInOpaque then .error .badHostCharacter
  else .ok (.opaqueName (percentEncode isPlain cs))

/-- A port of at most 16 bits; none for no digits and for the usual port. -/
def readPort (scheme cs : List Char) : Except Malformed (Option Nat) :=
  if cs.isEmpty then .ok none
  else match Text.ofDigits 10 cs with
    | none => .error .badPort
    | some port =>
      if UInt16.size ≤ port then .error .badPort
      else if usualPort scheme = some port then .ok none
      else .ok (some port)

/-- The URL of a scheme and an authority, without path, query and fragment. -/
def readAuthority (scheme authority : List Char) : Except Malformed Url := do
  let special := isSpecial scheme
  let (username, password, hostAndPort) := (cutUserInfo authority).getD ([], [], authority)
  let (hostText, portText) := cutHost false hostAndPort
  if hostText.isEmpty ∧ (special ∨ !portText.isEmpty ∨ authority.contains '@') then
    throw .emptyHost
  let host ← if special then readHost hostText else readOpaqueHost hostText
  let port ← readPort scheme (portText.drop 1)
  pure ⟨scheme, username, password, some host, port, .segments [], none, none⟩

/-! ### Path -/

/-- A dot, plain or percent encoded, at the start of a segment. -/
def cutDot : List Char → Option (List Char)
  | '.' :: rest => some rest
  | '%' :: '2' :: 'e' :: rest => some rest
  | '%' :: '2' :: 'E' :: rest => some rest
  | _ => none

def isSingleDot (segment : List Char) : Bool :=
  cutDot segment == some []

def isDoubleDot (segment : List Char) : Bool :=
  (cutDot segment).bind cutDot == some []

/-- The path without its last segment, of which nothing goes if `isRoot`. -/
def shorten (isRoot : List (List Char) → Bool) (path : List (List Char)) : List (List Char) :=
  if isRoot path then path else path.dropLast

/-- Puts segments after those in `path`. A double dot takes one away; a dot segment at the end
leaves an empty one in its place. -/
def resolve (isRoot : List (List Char) → Bool) (path : List (List Char)) :
    List (List Char) → List (List Char)
  | [] => path
  | segment :: rest =>
    let path :=
      if isDoubleDot segment then shorten isRoot path
      else if isSingleDot segment then path
      else path ++ [percentEncode keptInPath segment]
    let closed :=
      if rest.isEmpty && (isDoubleDot segment || isSingleDot segment) then path ++ [[]] else path
    resolve isRoot closed rest

/-- The parts of a path after its first slash. -/
def cutSegments (special : Bool) (cs : List Char) : List (List Char) :=
  Text.splitAt '/' (cs.map fun c => if isSlash special c then '/' else c)

/-- The segments of a path after its first slash. -/
def readSegments (special : Bool) (cs : List Char) : List (List Char) :=
  resolve (fun _ => false) [] (cutSegments special cs)

/-- The path after an authority. Special URLs have at least an empty segment. -/
def readPath (special : Bool) : List Char → Path
  | [] => .segments (if special then [[]] else [])
  | _ :: rest => .segments (readSegments special rest)

/-! ### Files -/

/-- A letter and a colon, for which a bar may stand. -/
def isDrive : List Char → Bool
  | [letter, mark] => letter.isAlpha && (mark = ':' || mark = '|')
  | _ => false

/-- A drive is always written with a colon. -/
def writeDrive (segment : List Char) : List Char :=
  if isDrive segment then segment.take 1 ++ [':'] else segment

def writeFirstDrive : List (List Char) → List (List Char)
  | [] => []
  | segment :: rest => writeDrive segment :: rest

def isDriveRoot : List (List Char) → Bool
  | [segment] => isDrive segment
  | _ => false

/-- A file path has no empty segments in front, and no double dot leads out of its drive. -/
def filePath (cs : List Char) : Path :=
  let rest := if cs.head?.any (isSlash true) then cs.drop 1 else cs
  let names := (resolve isDriveRoot [] (writeFirstDrive (cutSegments true rest))).dropWhile
    (·.isEmpty)
  .segments (if names.isEmpty then [[]] else names)

/-- The parts before and after the first slash; the slash belongs to the second part. -/
def cutPath (special : Bool) (cs : List Char) : List Char × List Char :=
  (cs.takeWhile (!isSlash special ·), cs.dropWhile (!isSlash special ·))

/-! ### Whole URLs -/

/-- What follows `file:`. The local machine is left unnamed. -/
def readFile (scheme cs : List Char) : Except Malformed Url := do
  let (hostText, path) :=
    if (cs.take 2).length = 2 ∧ (cs.take 2).all (isSlash true) then cutPath true (cs.drop 2)
    else ([], cs)
  let (hostText, path) := if isDrive hostText then ([], hostText ++ path) else (hostText, path)
  let host ← if hostText.isEmpty then pure (.domain []) else readHost hostText
  let host := if host = .domain "localhost".toList then .domain [] else host
  pure ⟨scheme, [], [], some host, none, filePath path, none, none⟩

/-- What follows the colon, up to the query. -/
def readHierarchy (scheme cs : List Char) : Except Malformed Url :=
  let withAuthority (special : Bool) (rest : List Char) := do
    let (authority, path) := cutPath special rest
    let u ← readAuthority scheme authority
    pure { u with path := readPath special path }
  if scheme = "file".toList then readFile scheme cs
  else if isSpecial scheme then withAuthority true (cs.dropWhile (isSlash true))
  else match cs with
    | '/' :: '/' :: rest => withAuthority false rest
    | '/' :: rest =>
      .ok ⟨scheme, [], [], none, none, .segments (readSegments false rest), none, none⟩
    | _ => .ok ⟨scheme, [], [], none, none, .plain (percentEncode isPlain cs), none, none⟩

/-- The text before the first `mark`, and the text after it if there is one. -/
def cutMarked (mark : Char) (cs : List Char) : List Char × Option (List Char) :=
  match Text.cutAt mark cs with
  | some (before, after) => (before, some after)
  | none => (cs, none)

def read (text : String) : Except Malformed Url :=
  match cutScheme (significant text) with
  | none => .error .noScheme
  | some (scheme, rest) => do
    let (rest, fragment) := cutMarked '#' rest
    let (rest, query) := cutMarked '?' rest
    let u ← readHierarchy scheme rest
    let kept := if isSpecial scheme then keptInSpecialQuery else keptInQuery
    pure { u with
      query := query.map (percentEncode kept)
      fragment := fragment.map (percentEncode keptInFragment) }

end Conformance.Url
