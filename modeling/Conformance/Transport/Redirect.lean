import Conformance.Transport.Authorization
import Conformance.Url.Reference

/-!
Answers that send the client on. It asks again at the place they name, and tells there where it
comes from.
-/

namespace Conformance.Transport

/-- The answer to one request. -/
structure Answer where
  status : Nat
  /-- Where the client is sent. -/
  location : Option String
  /-- The body, or what went wrong while it was read. -/
  body : Except Failure String

/-- The address that a place names when it is read from another address, if it names one. -/
abbrev Resolver := Url → String → Option Url

/-- Places are references. -/
def resolveReference : Resolver := fun u location => (u.join location).toOption

/-- The answer is elsewhere. -/
def isRedirect (status : Nat) : Bool :=
  [301, 302, 303, 307, 308].contains status

/-- The answer is to be fetched from elsewhere: what was posted is not posted again. -/
def isFetched (status : Nat) (method : String) : Bool :=
  status = 303 || ((status = 301 || status = 302) && method = "POST")

def contentNames : List String :=
  ["content-type", "content-length", "content-encoding", "transfer-encoding"]

/-- What is sent along is asked for once only. -/
def Delivery.fetched (d : Delivery) : Delivery :=
  { d with
    method := if d.method = "HEAD" then "HEAD" else "GET"
    headers := d.headers.filter fun h => !contentNames.contains h.1
    body := "" }

/-- Headers that another host may not see. -/
def secretNames : List String :=
  ["authorization", "cookie", "cookie2", "proxy-authorization", "www-authenticate"]

def isSameHost (u v : Url) : Bool :=
  u.host = v.host && u.effectivePort = v.effectivePort

/-- The address a client comes from, which is not told where the way there is less safe. -/
def referer? (previous next : Url) : Option String :=
  if next.scheme = "http".toList ∧ previous.scheme = "https".toList then none
  else some previous.requested.text

/-- The same delivery for another address. -/
def Delivery.sentOn (d : Delivery) (next : Url) : Delivery :=
  let kept := if isSameHost d.url next then d.headers
    else d.headers.filter fun h => !secretNames.contains h.1
  { d with
    url := next
    headers := match referer? d.url next with
      | none => kept
      | some text => setHeader "referer" text kept }

/-- What an answer makes of a delivery: it is the response, or there is another delivery. A place
that has no address to ask at is left where it is. -/
def onward? (resolve : Resolver) (d : Delivery) (a : Answer) : Option Delivery := do
  let location ← a.location
  let next ← resolve { d.url with fragment := none } location
  if isRedirect a.status && fitsLine next then
    some ((if isFetched a.status d.method then d.fetched else d).sentOn next)
  else none

def Answer.result (a : Answer) : Except Failure Response :=
  a.body.map fun text => ⟨a.status, text⟩

def tooManyRedirects (u : Url) : Failure :=
  .request ("error following redirect for url (" ++ u.text ++ "): too many redirects")

def badScheme (u : Url) : Failure :=
  .request ("builder error for url (" ++ u.text ++ "): URL scheme is not allowed")

/-- What a server is asked for. -/
def Delivery.requested (d : Delivery) : Delivery := { d with url := d.url.requested }

variable {m : Type → Type} [Monad m]

/-- Asks, and goes on as long as the answers send the client elsewhere, a limited number of times. -/
def follow (resolve : Resolver) (answer : Delivery → m (Except Failure Answer)) :
    Nat → Delivery → m (Except Failure Response)
  | left, d => do
    match ← answer d.requested with
    | .error failure => pure (.error failure)
    | .ok a =>
      match onward? resolve d a with
      | none => pure a.result
      | some next =>
        match left with
        | 0 => pure (.error (tooManyRedirects d.url))
        | left + 1 =>
          if isWeb next.url then follow resolve answer left next
          else pure (.error (badScheme next.url))

/-- What comes of a delivery with servers that may send the client on so many times. -/
def fetch (resolve : Resolver) (limit : Nat) (answer : Delivery → m (Except Failure Answer))
    (d : Delivery) : m (Except Failure Response) :=
  follow resolve answer limit d.signed

end Conformance.Transport
