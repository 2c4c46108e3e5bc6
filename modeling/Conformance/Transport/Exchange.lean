import Conformance.Json.Writer
import Conformance.Log.Entry
import Conformance.Reply.Complaint
import Conformance.Request.Redaction
import Conformance.Transport.Headers
import Conformance.Url.Credentials
import Conformance.Url.Reader

/-!
One call to the gateway. A call always ends in an exchange: where no response came, its status is
`noResponse` and its body says why.
-/

namespace Conformance.Transport

/-- Why there was no response. -/
inductive Failure where
  | timeout (milliseconds : Nat)
  | connection (detail : String)
  | request (detail : String)
  | unreadBody (detail : String)
  | badHeader (name : String)
deriving DecidableEq, Repr, Inhabited

def Failure.message : Failure → String
  | timeout milliseconds => s!"Request timeout after {milliseconds}ms"
  | connection detail => "Connection error: " ++ detail
  | request detail => "Request error: " ++ detail
  | unreadBody detail => "Failed to read response body: " ++ detail
  | badHeader name => "Invalid header '" ++ name ++ "'"

/-- A request that can go out: its URL is understood and its headers are well formed. -/
structure Delivery where
  method : String
  url : Url
  headers : Headers
  body : String

structure Response where
  status : Nat
  body : String
deriving DecidableEq, Repr

/-- A way to the gateway. -/
structure Network (m : Type → Type) where
  deliver : Delivery → m (Except Failure Response)
  /-- Milliseconds since some moment in the past. -/
  clock : m Nat

/-- How a call ended. -/
structure Exchange where
  status : Int
  body : String
  elapsed : Nat
deriving DecidableEq, Repr

namespace Exchange

def isFailure (e : Exchange) : Bool :=
  e.status = noResponse

def ofResult : Except Failure Response → Nat → Exchange
  | .ok response, elapsed => ⟨response.status, response.body, elapsed⟩
  | .error failure, elapsed => ⟨noResponse, failure.message, elapsed⟩

end Exchange

/-- The text that a body is sent as. -/
def bodyText : Option Body → String
  | none => ""
  | some (.json value) => value.compact
  | some (.text content) => content

def isWeb (u : Url) : Bool :=
  u.scheme = "http".toList || u.scheme = "https".toList

/-- More bytes than this have no place in a request line. -/
def maxUrlBytes : Nat := 65534

/-- Some characters that a domain may hold have no place in a request line, nor has a long URL. -/
def fitsLine (u : Url) : Bool :=
  !(u.host.elim [] Url.Host.text).any ['"', '`', '\x7b', '\x7d'].contains
    && u.text.utf8ByteSize ≤ maxUrlBytes

/-- The credentials of a request are not written in its line. -/
def fitsRequestLine (u : Url) : Bool :=
  fitsLine u.withoutCredentials

/-- Headers are checked before the URL. -/
def prepare (r : Request) : Except Failure Delivery := do
  let headers ← (build r.headers r.body).mapError .badHeader
  match Url.read r.url with
  | .error cause => throw (.request ("builder error: " ++ cause.message))
  | .ok u =>
    if !isWeb u then throw (.request "builder error: URL scheme is not allowed")
    if !fitsRequestLine u then throw (.request "builder error: invalid URI")
    pure ⟨r.method, { u with fragment := none }, headers, bodyText r.body⟩

/-- The log of a call, with the API key masked in its URL. -/
def logEntry (r : Request) (elapsed : Nat) : Except Failure Response → Log.Entry
  | .ok response => ⟨.debug, Log.targetOf "transport", [
      ("message", .string "Gateway responded"), ("method", .string r.method),
      ("url", .string (Redaction.mask r.url)), ("status", .ofNat response.status),
      ("elapsed_ms", .ofNat elapsed)]⟩
  | .error failure => ⟨.info, Log.targetOf "transport", [
      ("message", .string "Transport failure"), ("method", .string r.method),
      ("url", .string (Redaction.mask r.url)), ("error", .string failure.message),
      ("elapsed_ms", .ofNat elapsed)]⟩

variable {m : Type → Type} [Monad m]

/-- Only a request that can go out reaches the network. -/
def deliver (network : Network m) (r : Request) : m (Except Failure Response) :=
  match prepare r with
  | .ok delivery => network.deliver delivery
  | .error failure => pure (.error failure)

def send (network : Network m) (log : Log.Entry → m Unit) (r : Request) : m Exchange := do
  let start ← network.clock
  let result ← deliver network r
  let elapsed := (← network.clock) - start
  log (logEntry r elapsed result)
  pure (.ofResult result elapsed)

/-- A call where headers that are full stop the program that sets one more, so that there is no
exchange. -/
def sendWithin (isFull : Headers → Bool) (network : Network m) (log : Log.Entry → m Unit)
    (r : Request) : m (Option Exchange) :=
  if overflows isFull [] (settings r.headers r.body) then pure none
  else do pure (some (← send network log r))

end Conformance.Transport
