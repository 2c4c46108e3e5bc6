import Conformance.CommandLine.Program
import Conformance.Log.Line
import Conformance.Sweep.Stamp
import Conformance.Transport.Socket
import Std.Time.DateTime.Timestamp

/-!
The program itself.
-/

namespace Conformance.CommandLine

/-- Why the system refuses to read or write a file. -/
def refusalText : IO.Error → String
  | .noFileOrDirectory _ code details | .inappropriateType _ code details
  | .permissionDenied _ code details | .invalidArgument _ code details
  | .resourceExhausted _ code details | .noSuchThing _ code details
  | .alreadyExists _ code details | .interrupted _ code details
  | .otherError code details | .resourceBusy code details | .resourceVanished code details
  | .unsupportedOperation code details | .hardwareFault code details
  | .unsatisfiedConstraints code details | .illegalOperation code details
  | .protocolError code details | .timeExpired code details =>
    details ++ " (os error " ++ toString code ++ ")"
  | e => toString e

def readText (path : String) : IO (Except String String) := do
  try
    match String.fromUTF8? (← IO.FS.readBinFile path) with
    | some text => pure (.ok text)
    | none => pure (.error Disk.isNoText)
  catch e => pure (.error (refusalText e))

def writeText (path content : String) : IO (Except String Unit) := do
  try
    let file ← IO.FS.Handle.mk path .write
    file.putStr content
    file.flush
    pure (.ok ())
  catch e => pure (.error (refusalText e))

def isThere (path : String) : IO Bool := do
  try
    discard (IO.FS.realPath path)
    pure true
  catch _ => pure false

def systemFiles : Files IO where
  exists? := isThere
  read := readText
  write := writeText

def systemEnvironment : IO Environment :=
  Environment.names.filterMapM fun name => do
    pure ((← IO.getEnv name).map (name, ·))

def timeText : IO String := do
  let nanoseconds := (← Std.Time.Timestamp.now).toNanosecondsSinceUnixEpoch.val.toNat
  pure (Stamp.Moment.text ⟨nanoseconds / 1000000000, nanoseconds % 1000000000⟩)

def systemWorld : IO (World IO) := do
  let environment ← systemEnvironment
  let isTerminal ← (← IO.getStdout).isTty
  pure {
    files := systemFiles
    startLog := pure (.ok ())
    network := fun seconds => pure (.ok (Transport.Socket.network seconds))
    environment := environment
    isTerminal := isTerminal
    printLine := fun line => IO.println line
    complain := fun line => IO.eprintln line
    log := fun format e => do IO.eprintln (Log.line format (← timeText) e)
    newRunId := do pure (Stamp.runId (← IO.getRandomBytes 16).toList)
    now := timeText }

end Conformance.CommandLine

def main (words : List String) : IO UInt32 := do
  let code ← Conformance.CommandLine.execute (← Conformance.CommandLine.systemWorld) words
  pure (UInt32.ofNat code)
