import Conformance.Json.Value

/-!
Tables as they grow while a document is read. A table is defined once: by a header, by dotted keys,
or as a value; only a table that exists because of the tables inside it may be defined later.
-/

namespace Conformance.Toml

/-- How a table came about. -/
inductive Origin where
  /-- By a header of its own. -/
  | header
  /-- By a header of a table inside it. -/
  | path
  /-- By dotted keys. -/
  | dotted
deriving DecidableEq, Repr

inductive Entry where
  | value (v : Json)
  | table (origin : Origin) (entries : List (String × Entry))
  /-- One table for each header in double brackets. -/
  | tables (elements : List (List (String × Entry)))

abbrev Entries := List (String × Entry)

namespace Entries

/-- Puts an entry in the place of the one of that name, or after all others. -/
def set (key : String) (e : Entry) : Entries → Entries
  | [] => [(key, e)]
  | (k, old) :: rest => if k = key then (k, e) :: rest else (k, old) :: set key e rest

/-- What happens to a table at the end of a path, given how it came about. -/
abbrev Change := Origin → Entries → Option Entries

/-- Changes the table at the end of a path. Tables on the way that are not there yet are made.
`isKey` tells dotted keys from headers: dotted keys do not reach into a table with a header. -/
def update (isKey : Bool) (change : Change) : List String → Origin → Entries → Option Entries
  | [], origin, entries => change origin entries
  | key :: path, _, entries =>
    match entries.lookup key with
    | none =>
      let origin := if isKey then .dotted else .path
      (update isKey change path origin []).map fun inner => set key (.table origin inner) entries
    | some (.value _) => none
    | some (.table origin inner) =>
      if isKey ∧ origin = .header then none
      else (update isKey change path origin inner).map fun inner =>
        set key (.table origin inner) entries
    | some (.tables elements) =>
      match elements.getLast? with
      | none => none
      | some last => (update isKey change path .header last).map fun last =>
          set key (.tables (elements.dropLast ++ [last])) entries

/-- Gives a key a value; a key has one value. -/
def assign (path : List String) (key : String) (v : Json) (entries : Entries) : Option Entries :=
  let change : Change := fun origin inner =>
    if (path ≠ [] ∧ origin ≠ .dotted) ∨ (inner.lookup key).isSome then none
    else some (set key (.value v) inner)
  update true change path .header entries

/-- Defines a table by a header. -/
def define (path : List String) (key : String) (entries : Entries) : Option Entries :=
  let change : Change := fun _ inner =>
    match inner.lookup key with
    | none => some (set key (.table .header []) inner)
    | some (.table .path nested) => some (set key (.table .header nested) inner)
    | some _ => none
  update false change path .header entries

/-- Adds a table to a list by a header in double brackets. -/
def append (path : List String) (key : String) (entries : Entries) : Option Entries :=
  let change : Change := fun _ inner =>
    match inner.lookup key with
    | none => some (set key (.tables [[]]) inner)
    | some (.tables elements) => some (set key (.tables (elements ++ [[]])) inner)
    | some _ => none
  update false change path .header entries

/-- Gives a key below a header a value. -/
def assignUnder (header path : List String) (key : String) (v : Json) (entries : Entries) :
    Option Entries :=
  update false (fun _ inner => assign path key v inner) header .header entries

end Entries

mutual

def Entry.toJson : Entry → Json
  | .value v => v
  | .table _ entries => Json.ofMembers (entriesToMembers entries)
  | .tables elements => .array (tablesToJson elements)

def entriesToMembers : List (String × Entry) → List (String × Json)
  | [] => []
  | (key, e) :: rest => (key, e.toJson) :: entriesToMembers rest

def tablesToJson : List (List (String × Entry)) → List Json
  | [] => []
  | entries :: rest => Json.ofMembers (entriesToMembers entries) :: tablesToJson rest

end

end Conformance.Toml
