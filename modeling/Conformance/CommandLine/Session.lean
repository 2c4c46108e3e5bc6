import Conformance.CommandLine.Program
import Conformance.Disk.Access

/-!
The program run in memory: on a disk, against a gateway that is a function, and with all that it
writes kept.
-/

namespace Conformance.CommandLine

/-- A gateway answers a request in the light of the requests before it. The list ends in the request
to answer. -/
abbrev Gateway := List Transport.Delivery → Except Transport.Failure Transport.Response

namespace Gateway

/-- Nobody listens. -/
def absent : Gateway := fun _ => .error (.connection "Connection refused (os error 111)")

end Gateway

/-- What the program has done so far. -/
structure Session where
  disk : Disk
  /-- The requests that reached the gateway. -/
  requests : List Transport.Delivery := []
  /-- The standard output. -/
  printed : List String := []
  /-- The standard error, the log apart. -/
  complaints : List String := []
  entries : List (LogFormat × Log.Entry) := []

/-- How the parts that a command needs come up, or what keeps them from it. -/
structure SetUp where
  log : Except String Unit := .ok ()
  client : Except String Unit := .ok ()

namespace Session

/-- Works on the disk alone. -/
def onDisk {α : Type} (action : StateM Disk α) : StateM Session α := fun s =>
  let (a, disk) := action s.disk
  (a, { s with disk := disk })

def files : Files (StateM Session) where
  exists? path := onDisk (Disk.files.exists? path)
  read path := onDisk (Disk.files.read path)
  write path content := onDisk (Disk.files.write path content)

/-- A network where no time passes. -/
def network (gateway : Gateway) : Transport.Network (StateM Session) where
  deliver d := fun s =>
    let requests := s.requests ++ [d]
    (gateway requests, { s with requests := requests })
  clock := pure 0

def world (environment : Environment) (gateway : Gateway) (setUp : SetUp := {}) :
    World (StateM Session) where
  files := files
  startLog := pure setUp.log
  network _ := pure (setUp.client.map fun _ => network gateway)
  environment := environment
  isTerminal := false
  printLine line := modify fun s => { s with printed := s.printed ++ [line] }
  complain line := modify fun s => { s with complaints := s.complaints ++ [line] }
  log format e := modify fun s => { s with entries := s.entries ++ [(format, e)] }
  newRunId := pure "00000000-0000-0000-0000-000000000000"
  now := pure "1970-01-01T00:00:00Z"

end Session

/-- The exit code and what was done, for the words after the program's name. -/
def perform (environment : Environment) (gateway : Gateway) (disk : Disk) (words : List String)
    (setUp : SetUp := {}) : Nat × Session :=
  (execute (Session.world environment gateway setUp) words).run { disk := disk }

end Conformance.CommandLine
