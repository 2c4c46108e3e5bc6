/-!
What a reader leaves of a text. The bound on its length is what lets readers call themselves.
-/

namespace Conformance.Text

/-- A rest of `s`, shorter than `s`. -/
abbrev Rest (s : List Char) := {rest : List Char // rest.length < s.length}

/-- A rest of `s`, which may be all of it. -/
abbrev Remainder (s : List Char) := {rest : List Char // rest.length ≤ s.length}

variable {s : List Char}

namespace Rest

/-- All but the first character. -/
def tail (c : Char) (s : List Char) : Rest (c :: s) :=
  ⟨s, Nat.lt_succ_self s.length⟩

/-- The same rest of a text with one more character in front. -/
def behind (c : Char) (left : Rest s) : Rest (c :: s) :=
  ⟨left.val, Nat.lt_succ_of_lt left.property⟩

/-- What a second reader leaves of a rest. -/
def after (left : Rest s) (later : Rest left.val) : Rest s :=
  ⟨later.val, Nat.lt_trans later.property left.property⟩

/-- What a second reader leaves of a rest, of which it may have taken nothing. -/
def upTo (left : Rest s) (later : Remainder left.val) : Rest s :=
  ⟨later.val, Nat.lt_of_le_of_lt later.property left.property⟩

/-- All but the first `count` characters. -/
def drop (count : Nat) (s : List Char) (positive : 0 < count) (fits : count ≤ s.length) :
    Rest s :=
  ⟨s.drop count, by rw [List.length_drop]; omega⟩

def toRemainder (left : Rest s) : Remainder s :=
  ⟨left.val, Nat.le_of_lt left.property⟩

end Rest

namespace Remainder

def whole (s : List Char) : Remainder s :=
  ⟨s, Nat.le_refl s.length⟩

/-- What is left behind the characters of a kind. -/
def dropWhile (p : Char → Bool) (s : List Char) : Remainder s :=
  ⟨s.dropWhile p, (List.dropWhile_sublist p).length_le⟩

def drop (count : Nat) (s : List Char) : Remainder s :=
  ⟨s.drop count, (List.drop_sublist count s).length_le⟩

def behind (c : Char) (left : Remainder s) : Rest (c :: s) :=
  ⟨left.val, Nat.lt_succ_of_le left.property⟩

def after (left : Remainder s) (later : Rest left.val) : Rest s :=
  ⟨later.val, Nat.lt_of_lt_of_le later.property left.property⟩

def upTo (left : Remainder s) (later : Remainder left.val) : Remainder s :=
  ⟨later.val, Nat.le_trans later.property left.property⟩

end Remainder

/-- The first character behind those of a kind, and what follows it. -/
def cutAfter (p : Char → Bool) (s : List Char) : Option (Char × Rest s) :=
  let start := Remainder.dropWhile p s
  match h : start.val with
  | [] => none
  | c :: rest => some (c, start.after ⟨rest, h ▸ Nat.lt_succ_self rest.length⟩)

end Conformance.Text
