import Conformance.Transport.Charset
import Conformance.Transport.Redirect

/-!
Requests and responses as bytes on a connection (HTTP/1.1).
-/

namespace Conformance.Transport

/-! ### Requests -/

/-- What a server is asked for: path and query. -/
def targetText (u : Url) : String :=
  String.ofList (u.path.text ++ Url.marked '?' u.query)

def hostText (u : Url) : String :=
  String.ofList ((u.host.elim [] Url.Host.text) ++ u.portText)

/-- A length that is given for a body, if it is a number. -/
def givenLength? (headers : Headers) : Option Nat :=
  (headers.lookup "content-length").bind fun text => Text.ofNumeral 10 text.toList

def endsInChunks (coding : String) : Bool :=
  ((Text.splitAt ',' coding.toList).getLast?).any fun name =>
    Text.lowerAscii (Text.trim (String.ofList name)) = "chunked"

/-- A body in one chunk. -/
def chunked (body : ByteArray) : ByteArray :=
  (String.ofList (Nat.toDigits 16 body.size) ++ "\r\n").toUTF8 ++ body ++ "\r\n0\r\n\r\n".toUTF8

/-- The headers with which a body is sent, and what is sent of it. Chunks go before a length, and
what the caller says of either before what is known of the body. -/
def framed (headers : Headers) (body : ByteArray) : Headers × ByteArray :=
  if body.isEmpty then (headers.filter (·.1 ≠ "transfer-encoding"), body)
  else match headers.lookup "transfer-encoding", givenLength? headers with
    | some coding, length =>
      let kept := if length.isSome then headers.filter (·.1 ≠ "content-length") else headers
      let coding := if endsInChunks coding then coding else coding ++ ", chunked"
      (setHeader "transfer-encoding" coding kept, chunked body)
    | none, some length => (headers, body.extract 0 length)
    | none, none => (setHeader "content-length" (toString body.size) headers, body)

def requestBytes (d : Delivery) : ByteArray :=
  let host := if (d.headers.lookup "host").isSome then [] else [("host", hostText d.url)]
  let (headers, body) := framed (host ++ d.headers) d.body.toUTF8
  let head := d.method ++ " " ++ targetText d.url ++ " HTTP/1.1\r\n"
    ++ String.join (headers.map fun (name, value) => name ++ ": " ++ value ++ "\r\n") ++ "\r\n"
  head.toUTF8 ++ body

/-! ### Responses -/

/-- What has come of a response so far. -/
inductive Arrival where
  | awaited
  | complete (answer : Answer)
  /-- The connection has closed before the head was complete, or the head makes no sense. -/
  | noHead

/-- The bytes before and after the first empty line. -/
def cutHead : List UInt8 → Option (List UInt8 × List UInt8)
  | 13 :: 10 :: 13 :: 10 :: rest => some ([], rest)
  | b :: rest => (cutHead rest).map fun (head, body) => (b :: head, body)
  | [] => none

structure Head where
  status : Nat
  headers : Headers
deriving DecidableEq, Repr

namespace Head

def get? (h : Head) (name : String) : Option String := h.headers.lookup name

/-- A place is text only in UTF-8. -/
def location? (h : Head) : Option String :=
  (h.get? "location").bind fun text =>
    (Url.ofUtf8? (text.toList.map fun c => UInt8.ofNat c.toNat)).map String.ofList

/-- The status in a line such as `HTTP/1.1 200 OK`. -/
def readStatus (line : List Char) : Option Nat :=
  match Text.splitAt ' ' line with
  | version :: status :: _ =>
    if "HTTP/1.".toList.isPrefixOf version && status.length = 3 then Text.ofNumeral 10 status
    else none
  | _ => none

def readHeader (line : List Char) : Option (String × String) :=
  (Text.cutAt ':' line).map fun (name, value) =>
    (Text.lowerAscii (String.ofList name), String.ofList (Text.trimBy Text.isBlank value))

def read (bytes : List UInt8) : Option Head := do
  let lines := (Text.splitAt '\n' (bytes.map fun b => Char.ofNat b.toNat)).map
    fun line => line.filter (· ≠ '\r')
  match lines with
  | first :: rest => some ⟨← readStatus first, ← rest.mapM readHeader⟩
  | [] => none

/-- More responses follow one that only informs. -/
def isInterim (h : Head) : Bool := h.status < 200

def isChunked (h : Head) : Bool :=
  (h.get? "transfer-encoding").any fun text => Text.lowerAscii text = "chunked"

def length? (h : Head) : Option Nat :=
  if h.status = 204 || h.status = 304 then some 0
  else (h.get? "content-length").bind fun text => Text.ofNumeral 10 text.toList

end Head

/-- The size that the line before a chunk tells. -/
def chunkSize? (line : List UInt8) : Option Nat :=
  let text := line.map fun b => Char.ofNat b.toNat
  Text.ofNumeral 16 (text.takeWhile (Text.isDigitIn 16))

/-- The size of a chunk, and the bytes after the line that tells it. -/
def cutChunkSize (bytes : List UInt8) : Option (Nat × List UInt8) :=
  match bytes.dropWhile (· ≠ 10) with
  | _ :: rest => (chunkSize? (bytes.takeWhile (· ≠ 10))).map (·, rest)
  | [] => none

theorem length_cutChunkSize {bytes rest : List UInt8} {n : Nat}
    (h : cutChunkSize bytes = some (n, rest)) : rest.length < bytes.length := by
  unfold cutChunkSize at h
  split at h
  · rename_i b left hd
    obtain ⟨_, _, he⟩ := Option.map_eq_some_iff.1 h
    cases he
    have := (List.dropWhile_sublist (p := (· ≠ (10 : UInt8))) (l := bytes)).length_le
    rw [hd] at this
    exact this
  · cases h

/-- The bytes in the chunks of a body, once the last chunk has come. -/
def joinChunks (bytes : List UInt8) : Option (List UInt8) :=
  match h : cutChunkSize bytes with
  | none => none
  | some (0, _) => some []
  | some (n + 1, rest) =>
    have := length_cutChunkSize h
    if rest.length < n + 3 then none
    else (joinChunks (rest.drop (n + 3))).map (rest.take (n + 1) ++ ·)
termination_by bytes.length
decreasing_by simp only [List.length_drop]; omega

/-- The body after a head, once it is complete. -/
def bodyOf (isClosed : Bool) (h : Head) (bytes : List UInt8) : Option (List UInt8) :=
  if h.isChunked then joinChunks bytes
  else match h.length? with
    | some n => if n ≤ bytes.length then some (bytes.take n) else none
    | none => if isClosed then some bytes else none

theorem length_cutHead {bytes head body : List UInt8} (h : cutHead bytes = some (head, body)) :
    body.length < bytes.length := by
  fun_induction cutHead bytes generalizing head with
  | case1 rest => cases h; simp only [List.length_cons]; omega
  | case2 b rest _ ih =>
    obtain ⟨⟨_, _⟩, hr, he⟩ := Option.map_eq_some_iff.1 h
    cases he
    have := ih hr
    simp only [List.length_cons]
    omega
  | case3 => cases h

/-- The connection has closed within the body, or the body makes no sense. -/
def bodyCutOff : Failure := .unreadBody "end of file before the message was complete"

/-- Reads what has come over a connection so far. -/
def arrival (isClosed : Bool) (bytes : List UInt8) : Arrival :=
  match h : cutHead bytes with
  | none => if isClosed then .noHead else .awaited
  | some (headBytes, bodyBytes) =>
    match Head.read headBytes with
    | none => .noHead
    | some head =>
      if head.isInterim then
        have := length_cutHead h
        arrival isClosed bodyBytes
      else match bodyOf isClosed head bodyBytes with
        | some body => .complete
          ⟨head.status, head.location?, .ok (decodeBody (head.get? "content-type") body)⟩
        | none => if isClosed then .complete ⟨head.status, head.location?, .error bodyCutOff⟩
          else .awaited
termination_by bytes.length

end Conformance.Transport
