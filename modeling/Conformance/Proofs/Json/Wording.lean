import Conformance.Json.Decode
import Conformance.Json.Syntax
import Conformance.Proofs.Outcome
import Conformance.Proofs.Text.OneLine

/-! What goes wrong with a text or a value is told on one line, whatever stands there: values are
described by their kind, and strings are quoted. -/
namespace Conformance.Json

open Outcome (FailsBy)
open Text (OneLine oneLine_nat oneLine_int oneLine_float oneLine_quoted)

theorem oneLine_describe (v : Json) : OneLine (describe v) := by
  cases v with
  | null => decide
  | bool b => cases b <;> decide
  | number n =>
    cases n with
    | integer i => exact .append (.append (by decide) (oneLine_int i)) (by decide)
    | float x => exact .append (.append (by decide) (oneLine_float x)) (by decide)
  | string s => exact .append (by decide) (oneLine_quoted s)
  | array items => exact (by decide : OneLine "sequence")
  | object members => exact (by decide : OneLine "map")

theorem SyntaxError.oneLine_message (e : SyntaxError) : OneLine e.message := by
  have hfault : OneLine e.fault.message := by cases e.fault <;> decide
  exact .append (.append (.append (.append hfault (by decide)) (oneLine_nat e.line)) (by decide))
    (oneLine_nat e.column)

namespace DecodeError

variable {found : Json} {expected name : String}

/-- An error that is told on one line. -/
def Plain (e : DecodeError) : Prop := OneLine e.message

theorem plain_invalidType (h : OneLine expected) : (invalidType found expected).Plain :=
  .append (.append (.append (by decide) (oneLine_describe found)) (by decide)) h

theorem plain_invalidLength (h : OneLine expected) (n : Nat) :
    (invalidLength n expected).Plain :=
  .append (.append (.append (by decide) (oneLine_nat n)) (by decide)) h

theorem plain_missingField (h : OneLine name) : (missingField name).Plain :=
  .append (by decide) (.append (.append (by decide) h) (by decide))

end DecodeError

variable {α β : Type}

/-- Whatever value a decoder refuses, it says so on one line. -/
def Decoder.Plain (item : Decoder α) : Prop := ∀ v, FailsBy DecodeError.Plain (item v)

/-- The same of the fields of a record. -/
structure Record.Plain (r : Record α) : Prop where
  checked : ∀ key v, FailsBy DecodeError.Plain (r.check key v)
  gathered : ∀ members, FailsBy DecodeError.Plain (r.gather members)
  listed : ∀ expected taken items, OneLine expected →
    FailsBy DecodeError.Plain (r.elements expected taken items)

open DecodeError

namespace Decoder

variable {item : Decoder α}

theorem plain_value : Decoder.value.Plain := fun v => .ok v

theorem plain_string : Decoder.string.Plain := by
  intro v
  cases v with
  | string s => exact .ok s
  | _ => exact .error (plain_invalidType (by decide))

theorem plain_number : Decoder.number.Plain := by
  intro v
  cases v with
  | number n => exact .ok n
  | _ => exact .error (plain_invalidType (by decide))

theorem plain_tag : Decoder.tag.Plain := by
  intro v
  cases v with
  | string s => exact .ok s
  | _ => exact .error (plain_invalidType (by decide))

theorem plain_list (h : item.Plain) : (Decoder.list item).Plain := by
  intro v
  cases v with
  | array items => exact .mapM h
  | _ => exact .error (plain_invalidType (by decide))

theorem plain_nullable (h : item.Plain) : (Decoder.nullable item).Plain := by
  intro v
  cases v with
  | null => exact .ok none
  | _ => exact (h _).map

end Decoder

namespace Record

variable {r : Record α} {s : Record β} {item : Decoder α} {name : String}

theorem plain_fieldWith (hn : OneLine name) (h : item.Plain) (inObject inArray : Option α) :
    (fieldWith name item inObject inArray).Plain where
  checked key v := by
    simp only [fieldWith]
    split
    · exact (h v).map
    · exact .ok ()
  gathered members := by
    simp only [fieldWith]
    split
    · exact h _
    · exact .ok _
    · exact .error (plain_missingField hn)
  listed expected taken items he := by
    cases items with
    | cons v rest => exact (h v).bind fun _ => .ok _
    | nil =>
      cases inArray with
      | none => exact .error (plain_invalidLength he taken)
      | some default => exact .ok _

theorem plain_required (hn : OneLine name) (h : item.Plain) : (required name item).Plain :=
  plain_fieldWith hn h none none

theorem plain_defaulted (hn : OneLine name) (h : item.Plain) (default : α) :
    (defaulted name item default).Plain :=
  plain_fieldWith hn h (some default) (some default)

theorem Plain.map {f : α → β} (h : r.Plain) : (r.map f).Plain where
  checked := h.checked
  gathered members := (h.gathered members).map
  listed expected taken items he := (h.listed expected taken items he).bind fun _ => .ok _

theorem Plain.and (hr : r.Plain) (hs : s.Plain) : (r.and s).Plain where
  checked key v := (hr.checked key v).bind fun _ => hs.checked key v
  gathered members :=
    (hr.gathered members).bind fun _ => (hs.gathered members).bind fun _ => .ok _
  listed expected taken items he :=
    (hr.listed expected taken items he).bind fun _ =>
      (hs.listed expected _ _ he).bind fun _ => .ok _

theorem Plain.ofMembers (h : r.Plain) (members : Members) :
    FailsBy DecodeError.Plain (r.ofMembers members) :=
  .bind (.forM fun m => h.checked m.1 m.2) fun _ => h.gathered members

theorem oneLine_elementCount (n : Nat) : OneLine (elementCount n) := by
  unfold elementCount
  split
  · decide
  · exact .append (oneLine_nat n) (by decide)

/-- Elements of which none may be left, and what is said about those that are. -/
theorem Plain.ofElements (h : r.Plain) (hn : OneLine name) (items : List Json)
    {refusal : DecodeError} (he : refusal.Plain) :
    FailsBy DecodeError.Plain (do
      let (a, rest) ← r.ofElements name items
      if rest.isEmpty then pure a else .error refusal) := by
  have hexpected : OneLine (s!"{name} with {elementCount r.size}") :=
    .append (.append hn (by decide)) (oneLine_elementCount r.size)
  refine (h.listed _ 0 items hexpected).bind fun (a, rest) => ?_
  dsimp only
  split
  · exact .ok a
  · exact .error he

theorem Plain.decoder (h : r.Plain) (hn : OneLine name) : Decoder.Plain (r.decoder name) := by
  intro v
  cases v with
  | object members => exact h.ofMembers members
  | array items => exact h.ofElements hn items (plain_invalidLength (by decide) items.length)
  | _ => exact .error (plain_invalidType hn)

theorem Plain.ofRest (h : r.Plain) (hn : OneLine name) (items : List Json) :
    FailsBy DecodeError.Plain (r.ofRest name items) :=
  h.ofElements hn items
    (plain_invalidLength (.append (oneLine_elementCount r.size) (by decide)) items.length)

end Record

end Conformance.Json
