import Conformance.Config.Environment
import Conformance.Log.Entry
import Conformance.Text.Split

/-!
Which entries are logged. A filter is a list of directives between commas: a level, a target, or
both with an equals sign between them. Of the directives whose target begins an entry's target the
longest one decides. Directives for spans are understood, but no entry lies within a span.
-/

namespace Conformance.Log

structure Directive where
  target : Option (List Char)
  /-- Entries of levels up to this depth pass. -/
  depth : Nat
  /-- Fields an entry must have. -/
  fields : List String
  /-- Is about spans or the values of fields, and so about no entry. -/
  isScoped : Bool
deriving DecidableEq, Repr

namespace Directive

def levelNames : List (String × Nat) :=
  [("off", 0), ("error", 1), ("warn", 2), ("info", 3), ("debug", 4), ("trace", 5)]

/-- A level as a number or as a name in any capitalisation. -/
def level? (text : List Char) : Option Nat :=
  match Config.parseUnsigned UInt64.size (String.ofList text) with
  | some n => if n ≤ 5 then some n else none
  | none =>
    if text.isEmpty then some 1 else levelNames.lookup (Text.lowerAscii (String.ofList text))

/-- The depth after an equals sign; nothing stands for everything. -/
def depthAfter (isSpaced : Bool) (text : List Char) : Option Nat :=
  if isSpaced then none else if text.isEmpty then some 5 else level? text

/-- What follows the brackets of a span. -/
def afterScope (isSpaced : Bool) (target : Option (List Char)) (fields : List String)
    (isScoped : Bool) : List Char → Option Directive
  | [] => some ⟨target, 5, fields, isScoped⟩
  | '=' :: text => (depthAfter isSpaced text).map (⟨target, ·, fields, isScoped⟩)
  | _ => none

/-- The field in braces, by name or with a value. -/
def fieldScope (isSpaced : Bool) (target : Option (List Char)) (isNamed : Bool)
    (cs : List Char) : Option Directive := do
  let (field, rest) ← Text.cutAt '\x7d' cs
  if field.isEmpty then none
  else match rest with
    | ']' :: rest =>
      let name := String.ofList (field.takeWhile (· ≠ '='))
      afterScope isSpaced target [name] (isNamed || field.contains '=') rest
    | _ => none

/-- What follows the opening bracket of a span. -/
def scope (isSpaced : Bool) (target : Option (List Char)) (cs : List Char) : Option Directive :=
  let name := cs.takeWhile fun c => c ≠ ']' && c ≠ '\x7b'
  match cs.drop name.length with
  | ']' :: rest => afterScope isSpaced target [] true rest
  | '\x7b' :: rest => fieldScope isSpaced target (!name.isEmpty) rest
  | _ => none

def isStart (c : Char) : Bool :=
  c.isAlphanum || c = '-' || c = ':' || c = '_' || (0x80 ≤ c.toNat && !Text.isBlank c)

/-- Reads one directive. With white space around it, it names no level and no target of an
entry. -/
def parse (text : List Char) : Option Directive :=
  let cs := Text.trimBy Text.isBlank text
  let isSpaced := cs.length ≠ text.length
  match cs with
  | [] => none
  | '[' :: rest => scope isSpaced none rest
  | c :: _ =>
    if isStart c then
      let name := cs.takeWhile fun c => c ≠ '=' && c ≠ '['
      match cs.drop name.length with
      | '=' :: rest => (depthAfter isSpaced rest).map (⟨some name, ·, [], false⟩)
      | '[' :: rest => scope isSpaced (some name) rest
      | _ =>
        if isSpaced then some ⟨some text, 5, [], false⟩
        else match level? name with
          | some depth => some ⟨none, depth, [], false⟩
          | none => some ⟨some name, 5, [], false⟩
    else none

/-- Whether the directive is about entries of this target with these fields. -/
def applies (d : Directive) (e : Entry) : Bool :=
  !d.isScoped && d.target.all (·.isPrefixOf e.target.toList)
    && d.fields.all fun name => e.fields.any (·.1 = name)

/-- How narrow the directive is: the length of its target, then its number of fields. -/
def weight (d : Directive) : Nat × Nat :=
  ((d.target.map (·.length + 1)).getD 0, d.fields.length)

/-- Of two directives that apply, the narrower one decides; of two alike, the later one. -/
def narrower (a b : Directive) : Directive :=
  if a.weight.1 < b.weight.1 ∨ (a.weight.1 = b.weight.1 ∧ a.weight.2 ≤ b.weight.2) then b else a

end Directive

/-- The directives in force; with none at all, errors pass. -/
abbrev Filter := List Directive

namespace Filter

/-- The texts between commas. -/
def directives (text : String) : List (List Char) :=
  (Text.splitAt ',' text.toList).filter (!·.isEmpty)

/-- Refused as a whole if one directive cannot be read. -/
def parse? (text : String) : Option Filter :=
  (directives text).mapM Directive.parse

/-- Passes over directives that cannot be read. -/
def parseLenient (text : String) : Filter :=
  (directives text).filterMap Directive.parse

/-- The directives that cannot be read. -/
def unread (text : String) : List String :=
  ((directives text).filter (Directive.parse · |>.isNone)).map String.ofList

/-- The directive that decides about an entry. -/
def decisive (f : Filter) (e : Entry) : Option Directive :=
  (f.filter (·.applies e)).foldl
    (fun best d => some (best.elim d (Directive.narrower · d))) none

/-- How deep an entry may lie to be logged. -/
def depthFor (f : Filter) (e : Entry) : Nat :=
  if f.isEmpty then 1 else ((f.decisive e).map (·.depth)).getD 0

def passes (f : Filter) (e : Entry) : Bool :=
  e.level.depth ≤ f.depthFor e

/-- The filter a variable of the environment asks for goes before the one of the configuration. -/
def choose (e : Environment) (directives : String) : Filter :=
  ((e.get? "RUST_LOG").bind parse?).getD (parseLenient directives)

/-- Complaints about directives of the configuration that are in force but cannot be read. -/
def complaints (e : Environment) (directives : String) : List String :=
  match (e.get? "RUST_LOG").bind parse? with
  | some _ => []
  | none => (unread directives).map fun d => "ignoring `" ++ d ++ "`: invalid filter directive"

end Filter

end Conformance.Log
