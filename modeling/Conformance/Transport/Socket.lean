import Conformance.Transport.Wire
import Std.Async.DNS
import Std.Async.TCP
import Std.Async.Timer

/-!
A network of sockets, without encryption. Every call has a connection of its own.
-/

namespace Conformance.Transport.Socket

open Std.Async Std.Net

/-- The addresses of a host. -/
def addresses : Url.Host → Async (Array IPAddr)
  | .ipv4 n =>
    let byte (k : Nat) := UInt8.ofNat (n >>> (8 * k))
    pure #[.v4 (.ofParts (byte 3) (byte 2) (byte 1) (byte 0))]
  | .ipv6 pieces =>
    let piece (k : Nat) := UInt16.ofNat (pieces.getD k 0)
    pure #[.v6 (.ofParts (piece 0) (piece 1) (piece 2) (piece 3) (piece 4) (piece 5) (piece 6)
      (piece 7))]
  | .domain name => DNS.getAddrInfo (String.ofList name) ""
  | .opaqueName name => DNS.getAddrInfo (String.ofList name) ""

def socketAddress (port : UInt16) : IPAddr → SocketAddress
  | .v4 addr => .v4 ⟨addr, port⟩
  | .v6 addr => .v6 ⟨addr, port⟩

/-- Connects to the first address that answers. -/
def connect (port : UInt16) (refusal : String) :
    List IPAddr → Async (Except String TCP.Socket.Client)
  | [] => pure (.error refusal)
  | address :: rest => do
    try
      let client ← TCP.Socket.Client.mk
      client.connect (socketAddress port address)
      pure (.ok client)
    catch e => connect port (toString e) rest

/-- More bytes, or none where the connection has closed. -/
def receive? (client : TCP.Socket.Client) : Async (Option ByteArray) := do
  try client.recv? 65536
  catch _ => pure none

/-- Reads until the response is complete or the connection has closed. -/
partial def receive (client : TCP.Socket.Client) (read : ByteArray) : Async Arrival := do
  match ← receive? client with
  | none => pure (arrival true read.toList)
  | some bytes =>
    let read := read ++ bytes
    match arrival false read.toList with
    | .awaited => receive client read
    | arrived => pure arrived

def outcome : Arrival → Except Failure Answer
  | .complete answer => .ok answer
  | _ => .error (.request "connection closed before the message was complete")

/-- Sends a request over a connection, reads the response, and closes the connection. -/
def converse (client : TCP.Socket.Client) (d : Delivery) : Async (Except Failure Answer) := do
  try
    client.send (requestBytes d)
    let arrived ← receive client .empty
    try client.shutdown catch _ => pure ()
    pure (outcome arrived)
  catch e => pure (.error (.request (toString e)))

def connectTo (u : Url) : Async (Except String TCP.Socket.Client) := do
  try
    let found ← addresses (u.host.getD (.domain []))
    connect (UInt16.ofNat (u.effectivePort.getD 80)) "no address found" found.toList
  catch e => pure (.error (toString e))

/-- Asks one server. -/
def ask (d : Delivery) : Async (Except Failure Answer) := do
  if d.url.scheme = "https".toList then
    pure (.error (.connection "encrypted connections are not supported"))
  else match ← connectTo d.url with
    | .ok client => converse client d
    | .error reason => pure (.error (.connection reason))

/-- No call may wait longer than this. -/
def longestWait : Nat := 1 <<< 40

def deadline (milliseconds : Nat) : Async (Except Failure Response) := do
  sleep (.ofNat (min milliseconds longestWait))
  pure (.error (.timeout milliseconds))

/-- A client is not sent on more often than this. -/
def maxRedirects : Nat := 10

def deliver (milliseconds : Nat) (d : Delivery) : IO (Except Failure Response) :=
  (Async.race (fetch resolveReference maxRedirects ask d) (deadline milliseconds)).block

/-- The network of a program that gives each call so many seconds. -/
def network (seconds : Nat) : Network IO where
  deliver := deliver (seconds * 1000)
  clock := IO.monoMsNow

end Conformance.Transport.Socket
