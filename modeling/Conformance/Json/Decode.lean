import Conformance.Json.Writer

/-!
Typed readings of JSON values. A record is read from an object, or from an array that lists its
fields in order. In an object every known member is read, in the order of the names, before an
absent one is missed; members that are not fields are passed over.
-/

namespace Conformance.Json

inductive DecodeError where
  | invalidType (found : Json) (expected : String)
  | invalidValue (found : Json) (expected : String)
  | invalidLength (length : Nat) (expected : String)
  | unknownVariant (name : String) (known : List String)
  | missingField (name : String)
deriving Repr

/-- What kind of value stands there, with the value itself where it is a scalar. -/
def describe : Json → String
  | .null => "null"
  | .bool true => "boolean `true`"
  | .bool false => "boolean `false`"
  | .number (.integer n) => s!"integer `{n}`"
  | .number (.float x) => s!"floating point `{x.text}`"
  | .string s => "string " ++ Text.quoted s
  | .array _ => "sequence"
  | .object _ => "map"

def ticked (name : String) : String :=
  "`" ++ name ++ "`"

def alternatives : List String → String
  | [] => "there are no variants"
  | [a] => "expected " ++ ticked a
  | [a, b] => "expected " ++ ticked a ++ " or " ++ ticked b
  | many => "expected one of " ++ String.intercalate ", " (many.map ticked)

def DecodeError.message : DecodeError → String
  | invalidType found expected => s!"invalid type: {describe found}, expected {expected}"
  | invalidValue found expected => s!"invalid value: {describe found}, expected {expected}"
  | invalidLength length expected => s!"invalid length {length}, expected {expected}"
  | unknownVariant name known => s!"unknown variant {ticked name}, {alternatives known}"
  | missingField name => s!"missing field {ticked name}"

abbrev Decoder (α : Type) := Json → Except DecodeError α

namespace Decoder

def value : Decoder Json := .ok

def string : Decoder String
  | .string s => .ok s
  | other => .error (.invalidType other "a string")

def bool : Decoder Bool
  | .bool b => .ok b
  | other => .error (.invalidType other "a boolean")

/-- Integers count as floating point numbers too. -/
def number : Decoder Number
  | .number n => .ok n
  | other => .error (.invalidType other "f64")

/-- A natural number below `size`. -/
def unsigned (size : Nat) (name : String) : Decoder Nat
  | .number (.integer n) =>
    if 0 ≤ n ∧ n < size then .ok n.toNat
    else .error (.invalidValue (.number (.integer n)) name)
  | other => .error (.invalidType other name)

def list {α : Type} (item : Decoder α) : Decoder (List α)
  | .array items => items.mapM item
  | other => .error (.invalidType other "a sequence")

def nullable {α : Type} (item : Decoder α) : Decoder (Option α)
  | .null => .ok none
  | other => (item other).map some

/-- An object of any names whose values are all read alike. -/
def table {α : Type} (item : Decoder α) : Decoder (List (String × α))
  | .object members => members.mapM fun (key, v) => do pure (key, ← item v)
  | other => .error (.invalidType other "a map")

def named {α : Type} (known : List (String × α)) (name : String) : Except DecodeError α :=
  match known.lookup name with
  | some variant => .ok variant
  | none => .error (.unknownVariant name (known.map (·.1)))

/-- One of some names: a string, or an object with that name as its only member, whose value
`payload` accepts. -/
def variantWith {α : Type} (payload : Json → Except DecodeError Unit)
    (known : List (String × α)) : Decoder α
  | .string name => named known name
  | .object [(name, content)] => do
    let variant ← named known name
    payload content
    pure variant
  | .object members => .error (.invalidValue (.object members) "map with a single key")
  | other => .error (.invalidType other "string or map")

def unit : Decoder Unit
  | .null => .ok ()
  | other => .error (.invalidType other "unit")

def variant {α : Type} (known : List (String × α)) : Decoder α :=
  variantWith unit known

/-- The name that tells the variants of a tagged record apart. -/
def tag : Decoder String
  | .string name => .ok name
  | other => .error (.invalidType other "variant identifier")

end Decoder

/-- A reading of several named fields at once. -/
structure Record (α : Type) where
  /-- How many fields there are. -/
  size : Nat
  /-- Accepts a member unless it is a field with a bad value. -/
  check : String → Json → Except DecodeError Unit
  gather : Members → Except DecodeError α
  /-- The fields as the next elements of an array, `taken` of which are read already. -/
  elements : (expected : String) → (taken : Nat) → List Json → Except DecodeError (α × List Json)

namespace Record

variable {α β : Type}

/-- A field, and the values it takes where an object or an array leaves it out. -/
def fieldWith (name : String) (item : Decoder α) (inObject inArray : Option α) : Record α where
  size := 1
  check key v := if key = name then (item v).map fun _ => () else .ok ()
  gather members :=
    match members.get? name, inObject with
    | some v, _ => item v
    | none, some default => .ok default
    | none, none => .error (.missingField name)
  elements expected taken items :=
    match items, inArray with
    | v :: rest, _ => do pure (← item v, rest)
    | [], some default => .ok (default, [])
    | [], none => .error (.invalidLength taken expected)

def required (name : String) (item : Decoder α) : Record α :=
  fieldWith name item none none

def defaulted (name : String) (item : Decoder α) (default : α) : Record α :=
  fieldWith name item (some default) (some default)

/-- May be left out of an object, not out of an array. -/
def optional (name : String) (item : Decoder α) : Record (Option α) :=
  fieldWith name (Decoder.nullable item) (some none) none

def map (f : α → β) (r : Record α) : Record β where
  size := r.size
  check := r.check
  gather members := (r.gather members).map f
  elements expected taken items := do
    let (a, rest) ← r.elements expected taken items
    pure (f a, rest)

/-- The fields of `r`, then those of `s`. -/
def and (r : Record α) (s : Record β) : Record (α × β) where
  size := r.size + s.size
  check key v := do r.check key v; s.check key v
  gather members := do pure (← r.gather members, ← s.gather members)
  elements expected taken items := do
    let (a, rest) ← r.elements expected taken items
    let (b, rest) ← s.elements expected (taken + r.size) rest
    pure ((a, b), rest)

def elementCount (n : Nat) : String :=
  if n = 1 then "1 element" else s!"{n} elements"

def ofMembers (r : Record α) (members : Members) : Except DecodeError α := do
  members.forM fun (key, v) => r.check key v
  r.gather members

/-- The value of the first fields and the elements after them. -/
def ofElements (r : Record α) (name : String) (items : List Json) :
    Except DecodeError (α × List Json) :=
  r.elements s!"{name} with {elementCount r.size}" 0 items

/-- `name` says what is read, such as `struct Point`. -/
def decoder (name : String) (r : Record α) : Decoder α
  | .object members => r.ofMembers members
  | .array items => do
    let (a, rest) ← r.ofElements name items
    if rest.isEmpty then pure a
    else .error (.invalidLength items.length "fewer elements in array")
  | other => .error (.invalidType other name)

/-- As `decoder`, for what is left of an array after its first element. -/
def ofRest (name : String) (r : Record α) (items : List Json) : Except DecodeError α := do
  let (a, rest) ← r.ofElements name items
  if rest.isEmpty then pure a
  else .error (.invalidLength items.length s!"{elementCount r.size} in sequence")

end Record

end Conformance.Json
