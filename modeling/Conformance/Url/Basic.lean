import Conformance.Url.Form
import Conformance.Url.Ip

/-!
URLs in normal form, and their text.
-/

namespace Conformance.Url

inductive Host where
  | domain (name : List Char)
  | ipv4 (address : Nat)
  | ipv6 (pieces : List Nat)
  | opaqueName (text : List Char)
deriving DecidableEq, Repr

def Host.text : Host → List Char
  | domain name => name
  | ipv4 address => writeIpv4 address
  | ipv6 pieces => '[' :: writeIpv6 pieces ++ [']']
  | opaqueName text => text

/-- A path is a list of segments, each with a slash before it, or plain text. -/
inductive Path where
  | segments (names : List (List Char))
  | plain (text : List Char)
deriving DecidableEq, Repr

def Path.text : Path → List Char
  | segments names => names.flatMap ('/' :: ·)
  | plain text => text

end Url

/-- The parts of a URL, each in the form in which it is written. -/
structure Url where
  scheme : List Char
  username : List Char
  password : List Char
  host : Option Url.Host
  /-- Absent where it is the usual port of the scheme. -/
  port : Option Nat
  path : Url.Path
  query : Option (List Char)
  fragment : Option (List Char)
deriving DecidableEq, Repr

namespace Url

/-- The schemes whose URLs always have an authority and a path. -/
def isSpecial (scheme : List Char) : Bool :=
  ["http", "https", "ws", "wss", "ftp", "file"].any (·.toList = scheme)

/-- The port a scheme uses where none is given. -/
def usualPort (scheme : List Char) : Option Nat :=
  if scheme = "http".toList ∨ scheme = "ws".toList then some 80
  else if scheme = "https".toList ∨ scheme = "wss".toList then some 443
  else if scheme = "ftp".toList then some 21
  else none

/-- The port requests go to. -/
def effectivePort (u : Url) : Option Nat :=
  u.port.or (usualPort u.scheme)

def userInfo (u : Url) : List Char :=
  if u.username.isEmpty ∧ u.password.isEmpty then []
  else u.username ++ (if u.password.isEmpty then [] else ':' :: u.password) ++ ['@']

def portText (u : Url) : List Char :=
  match u.port with
  | none => []
  | some port => ':' :: Nat.toDigits 10 port

/-- The text before the path. Without a host, a path of its own must not look like a host. -/
def originText (u : Url) : List Char :=
  match u.host with
  | some host => '/' :: '/' :: u.userInfo ++ host.text ++ u.portText
  | none =>
    match u.path with
    | .segments ([] :: _ :: _) => ['/', '.']
    | _ => []

def marked (mark : Char) : Option (List Char) → List Char
  | none => []
  | some cs => mark :: cs

def chars (u : Url) : List Char :=
  u.scheme ++ ':' :: u.originText ++ u.path.text ++ marked '?' u.query ++ marked '#' u.fragment

def text (u : Url) : String :=
  String.ofList u.chars

/-- The URL with a pair put after those of its query. -/
def withPair (u : Url) (name value : String) : Url :=
  { u with query := some (Form.append (u.query.getD []) name.toList value.toList) }

end Url

end Conformance
