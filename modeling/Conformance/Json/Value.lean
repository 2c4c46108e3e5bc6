import Conformance.Json.Shortest

/-!
JSON values. An object lists its members in the order in which they are written. Objects that are
read, and those in canonical form, list them by name and have each name once.
-/

namespace Conformance

/-- A number that has neither fraction nor exponent and fits into 64 bits is an integer. -/
inductive Number where
  | integer (value : Int)
  | float (value : Json.Binary64)
deriving DecidableEq, Repr

inductive Json where
  | null
  | bool (value : Bool)
  | number (value : Number)
  | string (value : String)
  | array (items : List Json)
  | object (members : List (String × Json))
deriving Repr, BEq, Inhabited

namespace Json

abbrev Members := List (String × Json)

namespace Members

/-- A member of the same name is replaced. -/
def insert (key : String) (value : Json) : Members → Members
  | [] => [(key, value)]
  | (k, v) :: rest =>
    if key < k then (key, value) :: (k, v) :: rest
    else if key = k then (key, value) :: rest
    else (k, v) :: insert key value rest

/-- Of several members of one name the last one counts. -/
def ofList (members : List (String × Json)) : Members :=
  members.foldl (fun kept (key, value) => kept.insert key value) []

def get? (members : Members) (key : String) : Option Json :=
  members.lookup key

def contains (members : Members) (key : String) : Bool :=
  members.any (·.1 == key)

def keys (members : Members) : List String :=
  members.map (·.1)

/-- Names strictly increase. -/
def Ordered (members : Members) : Prop :=
  members.keys.Pairwise (· < ·)

theorem mem_keys_insert {key k : String} {value : Json} {members : Members} :
    k ∈ (insert key value members).keys ↔ k = key ∨ k ∈ members.keys := by
  induction members with
  | nil => simp [insert, keys]
  | cons m rest ih =>
    obtain ⟨k', v'⟩ := m
    simp only [keys] at ih
    unfold insert
    split
    · simp [keys]
    · split
      · rename_i h; subst h; simp [keys]
      · simp only [keys, List.map_cons, List.mem_cons, ih]
        constructor <;> rintro (h | h | h) <;> simp_all

theorem ordered_insert {key : String} {value : Json} {members : Members}
    (h : Ordered members) : Ordered (insert key value members) := by
  induction members with
  | nil => simp [insert, Ordered, keys]
  | cons m rest ih =>
    obtain ⟨k', v'⟩ := m
    simp only [Ordered, keys, List.map_cons, List.pairwise_cons] at h
    unfold insert
    split
    · rename_i hlt
      simp only [Ordered, keys, List.map_cons, List.pairwise_cons, List.mem_cons]
      refine ⟨?_, h⟩
      rintro k (rfl | hk)
      · exact hlt
      · exact String.lt_trans hlt (h.1 k hk)
    · split
      · rename_i he; subst he
        simpa only [Ordered, keys, List.map_cons, List.pairwise_cons] using h
      · rename_i hlt hne
        simp only [Ordered, keys, List.map_cons, List.pairwise_cons]
        refine ⟨fun k hk => ?_, ih h.2⟩
        rcases mem_keys_insert.1 hk with rfl | hk
        · exact Std.lt_of_le_of_ne (String.not_lt.1 hlt) (Ne.symm hne)
        · exact h.1 k hk

theorem ordered_ofList (members : List (String × Json)) : Ordered (ofList members) := by
  suffices ∀ kept : Members, Ordered kept →
      Ordered (members.foldl (fun kept (key, value) => kept.insert key value) kept) from
    this [] (by simp [Ordered, keys])
  induction members with
  | nil => exact fun _ h => h
  | cons m rest ih => exact fun kept h => ih _ (ordered_insert h)

end Members

/-- An object from members in any order. -/
def ofMembers (members : List (String × Json)) : Json :=
  .object (Members.ofList members)

mutual

/-- The same value with the members of all its objects in the order of their names. -/
def canonical : Json → Json
  | array items => array (canonicalItems items)
  | object members => ofMembers (canonicalMembers members)
  | null => null
  | bool b => bool b
  | number n => number n
  | string s => string s

def canonicalItems : List Json → List Json
  | [] => []
  | item :: items => canonical item :: canonicalItems items

def canonicalMembers : List (String × Json) → List (String × Json)
  | [] => []
  | (key, value) :: members => (key, canonical value) :: canonicalMembers members

end

def ofNat (n : Nat) : Json :=
  .number (.integer n)

def ofInt (n : Int) : Json :=
  .number (.integer n)

def ofOption : Option Json → Json
  | none => .null
  | some value => value

def ofStrings (items : List String) : Json :=
  .array (items.map .string)

end Json

end Conformance
