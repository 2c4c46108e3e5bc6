import Conformance.Disk.Path

/-!
Reading files and writing them. A file that is written loses what it held first, and then takes what
the system lets it take.
-/

namespace Conformance.Disk

def decoded (bytes : ByteArray) : Except String String :=
  match String.fromUTF8? bytes with
  | some text => .ok text
  | none => .error isNoText

theorem decoded_toUTF8 (text : String) : decoded text.toUTF8 = .ok text := by
  have hv : text.toUTF8.IsValidUTF8 := text.isValidUTF8
  rw [decoded, String.fromUTF8?, dif_pos hv]
  rfl

def File.read (file : File) : Except String String :=
  match file.refusals.reading with
  | some reason => .error reason
  | none => decoded file.bytes

def readFile (disk : Disk) (path : String) : Except String String :=
  match disk.node? path with
  | some (.file number) => (disk.file number).read
  | some (.directory refusals) => .error (refusals.reading.getD isDirectory)
  | some (.device device) => device.read.bind decoded
  | some (.link _) => .error hasTooManyLinks
  | none => .error isMissing

/-- What the system takes of a write that it ends, and why it does. -/
def cut? (disk : Disk) (bytes : ByteArray) : Option (ByteArray × String) :=
  match disk.stop with
  | some (n, reason) => if n < bytes.size then some (bytes.extract 0 n, reason) else none
  | none => none

def overwrite (disk : Disk) (number : Nat) (bytes : ByteArray) : Except String Unit × Disk :=
  match disk.cut? bytes with
  | some (first, reason) => (.error reason, disk.withBytes number first)
  | none => (.ok (), disk.withBytes number bytes)

/-- Why there can be no new name in a directory. -/
def noName? (disk : Disk) (place : List String) : Option String :=
  match disk.nodeAt place with
  | some (.directory refusals) => refusals.writing
  | some _ => some isNoDirectory
  | none => some isMissing

def writeAt (disk : Disk) (place : List String) (bytes : ByteArray) :
    Except String Unit × Disk :=
  match disk.nodeAt place with
  | some (.file number) =>
    match (disk.file number).refusals.writing with
    | some reason => (.error reason, disk)
    | none => disk.overwrite number bytes
  | some (.directory _) => (.error isDirectory, disk)
  | some (.device device) => (device.write, disk)
  | some (.link _) => (.error hasTooManyLinks, disk)
  | none =>
    match disk.noName? place.dropLast with
    | some reason => (.error reason, disk)
    | none => (disk.withFile place).overwrite disk.fresh bytes

def writeFile (disk : Disk) (path content : String) : Except String Unit × Disk :=
  match disk.place path true with
  | .error reason => (.error reason, disk)
  | .ok place => disk.writeAt place content.toUTF8

section

variable {disk : Disk} {place : List String} {path : String} {number : Nat}

theorem readFile_of_bytes (hn : disk.node? path = some (.file number))
    (hr : (disk.file number).refusals.reading = none) {text : String}
    (hb : (disk.file number).bytes = text.toUTF8) : disk.readFile path = .ok text := by
  simp only [readFile, hn, File.read, hr, hb, decoded_toUTF8]

theorem overwrite_of_endless (h : disk.stop = none) (number : Nat) (bytes : ByteArray) :
    disk.overwrite number bytes = (.ok (), disk.withBytes number bytes) := by
  simp only [overwrite, cut?, h]

theorem overwrite_of_stop {n : Nat} {reason : String} {bytes : ByteArray}
    (h : disk.stop = some (n, reason)) (hn : n < bytes.size) (number : Nat) :
    disk.overwrite number bytes =
      (.error reason, disk.withBytes number (bytes.extract 0 n)) := by
  simp only [overwrite, cut?, h, if_pos hn]

theorem writeFile_of_file (hp : disk.place path true = .ok place)
    (hn : disk.nodeAt place = some (.file number))
    (hw : (disk.file number).refusals.writing = none) (content : String) :
    disk.writeFile path content = disk.overwrite number content.toUTF8 := by
  simp only [writeFile, hp, writeAt, hn, hw]

theorem writeFile_of_free (hp : disk.place path true = .ok place)
    (hn : disk.nodeAt place = none) (hd : disk.noName? place.dropLast = none) (content : String) :
    disk.writeFile path content =
      (disk.withFile place).overwrite disk.fresh content.toUTF8 := by
  simp only [writeFile, hp, writeAt, hn, hd]

end

/-- The program's file operations on a disk. -/
def files : Files (StateM Disk) where
  exists? path disk := ((disk.node? path).isSome, disk)
  read path disk := (disk.readFile path, disk)
  write path content disk := disk.writeFile path content

end Conformance.Disk
