import Conformance.Disk.Basic
import Conformance.Text.Split

/-!
Where a path leads, through directories and links.
-/

namespace Conformance.Disk

/-- The names in a path. A slash at its end is followed by an empty one. -/
def parts (path : String) : List String :=
  let names := (Text.splitAt '/' path.toList).map String.ofList
  names.filter (· ≠ "") ++ if names.getLast? = some "" then [""] else []

/-- Where a path starts that is used at a place. -/
def start (place : List String) (path : String) : List String :=
  if path.toList.head? = some '/' then [] else place

/-- The next place on the way. Only directories have one: two dots lead to the directory above, and
from the root to the root. -/
def step (disk : Disk) (place : List String) (part : String) : Except String (List String) :=
  match disk.nodeAt place with
  | none => .error isMissing
  | some (.directory refusals) =>
    if part = "" then .ok place
    else match refusals.entering with
      | some reason => .error reason
      | none =>
        if part = "." then .ok place
        else if part = ".." then .ok place.dropLast
        else if 255 < part.utf8ByteSize then .error isTooLong
        else .ok (place ++ [part])
  | some _ => .error isNoDirectory

/-- Where the parts of a path lead from a place, with `onLink` for what is behind a link. If a `new`
file may come to be there, the path cannot end in a slash. -/
def followWith (disk : Disk) (new : Bool)
    (onLink : List String → List String → Except String (List String)) :
    List String → List String → Except String (List String)
  | place, [] => .ok place
  | place, part :: rest =>
    match disk.step place part with
    | .error reason => .error reason
    | .ok next =>
      if new ∧ rest = [""] then .error isDirectory
      else match disk.nodeAt next with
        | some (.link target) => onLink (start next.dropLast target) (parts target ++ rest)
        | _ => followWith disk new onLink next rest

/-- Where the parts of a path lead by way of so many links at most. -/
def follow (disk : Disk) (new : Bool) : Nat → List String → List String →
    Except String (List String)
  | 0 => disk.followWith new fun _ _ => .error hasTooManyLinks
  | links + 1 => disk.followWith new (disk.follow new links)

/-- How many links may be on the way. -/
def maxLinks : Nat := 40

def place (disk : Disk) (path : String) (new : Bool := false) : Except String (List String) :=
  if path.isEmpty then .error isMissing
  else if 4096 ≤ path.utf8ByteSize then .error isTooLong
  else disk.follow new maxLinks (start disk.workingDirectory path) (parts path)

/-- What a path leads to. -/
def node? (disk : Disk) (path : String) : Option Node :=
  match disk.place path with
  | .error _ => none
  | .ok place => disk.nodeAt place

end Conformance.Disk
