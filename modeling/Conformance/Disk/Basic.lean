/-!
What is on a disk: names, the files behind them, and what the system refuses to do with them, in its
own words.
-/

namespace Conformance

/-- What the program does with files. -/
structure Files (m : Type → Type) where
  exists? : String → m Bool
  read : String → m (Except String String)
  write : String → String → m (Except String Unit)

namespace Disk

/-- Why the system refuses what it refuses. -/
structure Refusals where
  reading : Option String := none
  /-- In a directory, new names. -/
  writing : Option String := none
  /-- In a directory, looking up names. -/
  entering : Option String := none

structure File where
  bytes : ByteArray := .empty
  refusals : Refusals := {}

/-- What is neither a file nor a directory. Nothing that is written to it stays on the disk, and one
that keeps the program waiting is not considered. -/
structure Device where
  read : Except String ByteArray
  write : Except String Unit

/-- What a name stands for. Several names may stand for the same file. -/
inductive Node where
  | file (number : Nat)
  | directory (refusals : Refusals := {})
  | link (target : String)
  | device (device : Device)

end Disk

structure Disk where
  /-- All names, as paths from the root. -/
  nodes : List (List String × Disk.Node) := [([], .directory)]
  /-- The files by their numbers. -/
  file : Nat → Disk.File := fun _ => {}
  workingDirectory : List String := []
  /-- What is refused to be done with a file once it has been made. -/
  newFile : Disk.Refusals := {}
  /-- After how many bytes the system ends a write, and why. A full disk takes some bytes or none. -/
  stop : Option (Nat × String) := none

namespace Disk

def isMissing : String := "No such file or directory (os error 2)"
def isNoDirectory : String := "Not a directory (os error 20)"
def isDirectory : String := "Is a directory (os error 21)"
def isTooLong : String := "File name too long (os error 36)"
def hasTooManyLinks : String := "Too many levels of symbolic links (os error 40)"
def isNoText : String := "stream did not contain valid UTF-8"

def nodeAt (disk : Disk) (place : List String) : Option Node :=
  disk.nodes.lookup place

/-- A number that no name stands for. -/
def fresh (disk : Disk) : Nat :=
  disk.nodes.foldr (fun (_, node) bound => match node with
    | .file number => max (number + 1) bound
    | _ => bound) 0

/-- An empty file where nothing was. -/
def withFile (disk : Disk) (place : List String) : Disk :=
  { disk with
    nodes := disk.nodes ++ [(place, .file disk.fresh)]
    file := fun n => if n = disk.fresh then { refusals := disk.newFile } else disk.file n }

def withBytes (disk : Disk) (number : Nat) (bytes : ByteArray) : Disk :=
  { disk with file := fun n =>
      if n = number then { disk.file n with bytes := bytes } else disk.file n }

end Disk

end Conformance
