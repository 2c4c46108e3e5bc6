import Conformance.Url.Reader

/-!
References that are read from a web address: they name an address of their own, or what they leave
out is taken from the other address.
-/

namespace Conformance.Url

/-- A host follows. -/
def namesHost (cs : List Char) : Bool :=
  (cs.take 2).length = 2 && (cs.take 2).all (isSlash true)

/-- The path of a reference, beginning at the root or in the place of the last segment. -/
def joinPath (path : Path) : List Char → Path
  | [] => path
  | c :: cs =>
    if isSlash true c then .segments (readSegments true cs)
    else
      let above := match path with
        | .segments names => names.dropLast
        | .plain _ => []
      .segments (resolve (fun _ => false) above (cutSegments true (c :: cs)))

/-- A reference up to its query. -/
def joinHierarchy (base : Url) (cs : List Char) : Except Malformed Url :=
  if namesHost cs then readHierarchy base.scheme cs
  else .ok { base with path := joinPath base.path cs }

/-- A reference without a scheme. Where there is nothing before its fragment, even the query is
kept. -/
def joinRelative (base : Url) (cs : List Char) : Except Malformed Url :=
  let (rest, fragment) := cutMarked '#' cs
  let fragment := fragment.map (percentEncode keptInFragment)
  if rest.isEmpty then .ok { base with fragment := fragment }
  else
    let (rest, query) := cutMarked '?' rest
    (joinHierarchy base rest).map fun u =>
      { u with query := query.map (percentEncode keptInSpecialQuery), fragment := fragment }

/-- The scheme of the address does not count in front of a reference that names no host. -/
def join (base : Url) (reference : String) : Except Malformed Url :=
  match cutScheme (significant reference) with
  | none => joinRelative base (significant reference)
  | some (scheme, rest) =>
    if scheme = base.scheme ∧ ¬ namesHost rest then joinRelative base rest else read reference

end Conformance.Url
