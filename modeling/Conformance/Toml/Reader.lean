import Conformance.Text.Rest
import Conformance.Toml.Scalar
import Conformance.Toml.Table

/-!
Reading TOML documents as JSON values. At most 79 brackets may be open at once.
-/

namespace Conformance.Toml

open Text (Rest Remainder)

/-- A reader takes at least one character. It fails without saying why. -/
abbrev Reading (α : Type) (s : List Char) := Option (α × Rest s)

/-! ### Space, comments and lines -/

def isBlank (c : Char) : Bool := c = ' ' || c = '\t'

def skipBlank (s : List Char) : Remainder s :=
  .dropWhile isBlank s

/-- What a comment or a text may hold: the tab, and no other control. -/
def isTextChar (c : Char) : Bool :=
  c = '\t' || (0x20 ≤ c.toNat && c.toNat ≠ 0x7F)

def skipComment (s : List Char) : Remainder s :=
  match s with
  | '#' :: rest => ((Remainder.dropWhile isTextChar rest).behind '#').toRemainder
  | s => .whole s

/-- Skips space, and a comment after it. -/
def skipAside (s : List Char) : Remainder s :=
  let start := skipBlank s
  start.upTo (skipComment start.val)

/-- The text after a line break. -/
def cutLineBreak (s : List Char) : Option (Rest s) :=
  match s with
  | '\n' :: rest => some (.tail '\n' rest)
  | '\r' :: '\n' :: rest => some ((Rest.tail '\n' rest).behind '\r')
  | _ => none

/-- Nothing but space and a comment is left on the line. -/
def endOfLine (s : List Char) : Option (Remainder s) :=
  let left := skipAside s
  if left.val.isEmpty then some left
  else (cutLineBreak left.val).map fun rest => (left.after rest).toRemainder

/-- Skips space, comments and line breaks. -/
def skipLines (s : List Char) : Remainder s :=
  let left := skipAside s
  match cutLineBreak left.val with
  | none => left
  | some rest =>
    let next := left.after rest
    (next.upTo (skipLines next.val)).toRemainder
termination_by s.length
decreasing_by exact next.property

/-! ### Strings -/

def simpleEscape : Char → Option Char
  | 'b' => some '\x08'
  | 't' => some '\t'
  | 'n' => some '\n'
  | 'f' => some '\x0c'
  | 'r' => some '\r'
  | '"' => some '"'
  | '\\' => some '\\'
  | _ => none

/-- The character with a code of `count` hexadecimal digits. -/
def codeEscape (count : Nat) (s : List Char) : Option (Char × Remainder s) := do
  let digits := s.take count
  if digits.length = count then
    let code ← Text.ofDigits 16 digits
    if h : code.isValidChar then some (Char.ofNatAux code h, .drop count s) else none
  else none

/-- What follows a backslash. -/
def escape (s : List Char) : Reading Char s :=
  match s with
  | [] => none
  | 'u' :: rest => (codeEscape 4 rest).map fun (decoded, left) => (decoded, left.behind 'u')
  | 'U' :: rest => (codeEscape 8 rest).map fun (decoded, left) => (decoded, left.behind 'U')
  | c :: rest => (simpleEscape c).map fun decoded => (decoded, .tail c rest)

/-- Text up to a closing quotation mark on the same line. -/
def basicBody (s : List Char) : Reading (List Char) s :=
  match s with
  | [] => none
  | c :: rest =>
    if c = '"' then some ([], .tail c rest)
    else if c = '\\' then do
      let (decoded, left) ← escape rest
      let (more, after) ← basicBody left.val
      some (decoded :: more, (left.after after).behind c)
    else if isTextChar c then do
      let (more, after) ← basicBody rest
      some (c :: more, after.behind c)
    else none
termination_by s.length
decreasing_by
  · have := left.property; simp only [List.length_cons]; omega
  · simp

/-- Text up to a closing apostrophe on the same line, without escapes. -/
def literalBody : (s : List Char) → Reading (List Char) s
  | [] => none
  | c :: rest =>
    if c = '\'' then some ([], .tail c rest)
    else if isTextChar c then do
      let (more, after) ← literalBody rest
      some (c :: more, after.behind c)
    else none

/-- How many of the next characters are `quote`, up to five. -/
def quoteRun (quote : Char) (s : List Char) : Nat :=
  ((s.take 5).takeWhile (· = quote)).length

theorem length_quoteRun_le (quote : Char) (s : List Char) : quoteRun quote s ≤ s.length :=
  Nat.le_trans (List.takeWhile_sublist _).length_le (List.take_sublist 5 s).length_le

/-- Three quotes close a text of several lines; up to two more before them belong to it. -/
def closeQuotes (quote : Char) (s : List Char) : Reading (List Char) s :=
  let run := quoteRun quote s
  if h : 3 ≤ run then
    some (List.replicate (run - 3) quote, .drop run s (by omega) (length_quoteRun_le quote s))
  else none

/-- Skips space up to a line break, and all space and line breaks after it. -/
def skipGap (s : List Char) : Option (Rest s) :=
  let start := skipBlank s
  match cutLineBreak start.val with
  | none => none
  | some rest =>
    let next := start.after rest
    match skipGap next.val with
    | some more => some (next.after more)
    | none => some (next.upTo (skipBlank next.val))
termination_by s.length
decreasing_by exact next.property

/-- Text of several lines up to three quotation marks. -/
def longBasicBody (s : List Char) : Reading (List Char) s :=
  match closeQuotes '"' s with
  | some closed => some closed
  | none =>
    match cutLineBreak s with
    | some rest => do
      let (more, after) ← longBasicBody rest.val
      some ('\n' :: more, rest.after after)
    | none =>
      match s with
      | [] => none
      | c :: tail =>
        if c = '\\' then
          match skipGap tail with
          | some rest => do
            let (more, after) ← longBasicBody rest.val
            some (more, (rest.after after).behind c)
          | none => do
            let (decoded, rest) ← escape tail
            let (more, after) ← longBasicBody rest.val
            some (decoded :: more, (rest.after after).behind c)
        else if isTextChar c then do
          let (more, after) ← longBasicBody tail
          some (c :: more, after.behind c)
        else none
termination_by s.length
decreasing_by
  · exact rest.property
  · have := rest.property; simp only [List.length_cons]; omega
  · have := rest.property; simp only [List.length_cons]; omega
  · simp

/-- Text of several lines up to three apostrophes, without escapes. -/
def longLiteralBody (s : List Char) : Reading (List Char) s :=
  match closeQuotes '\'' s with
  | some closed => some closed
  | none =>
    match cutLineBreak s with
    | some rest => do
      let (more, after) ← longLiteralBody rest.val
      some ('\n' :: more, rest.after after)
    | none =>
      match s with
      | [] => none
      | c :: tail =>
        if isTextChar c then do
          let (more, after) ← longLiteralBody tail
          some (c :: more, after.behind c)
        else none
termination_by s.length
decreasing_by
  · exact rest.property
  · simp

/-- A line break right after the opening quotes does not belong to the text. -/
def skipFirstBreak (s : List Char) : Remainder s :=
  match cutLineBreak s with
  | some rest => rest.toRemainder
  | none => .whole s

def longText (body : (s : List Char) → Reading (List Char) s) (s : List Char) :
    Reading String s := do
  let start := skipFirstBreak s
  let (cs, rest) ← body start.val
  some (String.ofList cs, start.after rest)

def shortText (body : (s : List Char) → Reading (List Char) s) (s : List Char) :
    Reading String s := do
  let (cs, rest) ← body s
  some (String.ofList cs, rest)

/-- A quoted text of one line. -/
def quoted (s : List Char) : Reading String s :=
  match s with
  | '"' :: rest => (shortText basicBody rest).map fun (text, left) => (text, left.behind '"')
  | '\'' :: rest => (shortText literalBody rest).map fun (text, left) => (text, left.behind '\'')
  | _ => none

/-- What follows three quotes. -/
def behindThree (quote : Char) {s : List Char} (left : Rest s) :
    Rest (quote :: quote :: quote :: s) :=
  ((left.behind quote).behind quote).behind quote

/-- A quoted text of one line or, after three quotes, of several. -/
def text (s : List Char) : Reading String s :=
  match s with
  | '"' :: '"' :: '"' :: rest =>
    (longText longBasicBody rest).map fun (cs, left) => (cs, behindThree '"' left)
  | '\'' :: '\'' :: '\'' :: rest =>
    (longText longLiteralBody rest).map fun (cs, left) => (cs, behindThree '\'' left)
  | s => quoted s

/-! ### Keys -/

def isBareChar (c : Char) : Bool :=
  c.isAlphanum || c = '-' || c = '_'

/-- A key is quoted or made of letters, digits, hyphens and underscores. -/
def simpleKey (s : List Char) : Reading String s :=
  match s with
  | [] => none
  | c :: rest =>
    if isBareChar c then
      some (String.ofList (c :: rest.takeWhile isBareChar),
        (Remainder.dropWhile isBareChar rest).behind c)
    else quoted (c :: rest)

/-- Keys joined by dots: those before the last one, and the last one. -/
def dottedKey (s : List Char) : Reading (List String × String) s := do
  let (key, rest) ← simpleKey s
  match Text.cutAfter isBlank rest.val with
  | some ('.', tail) =>
    let next := (rest.after tail).upTo (skipBlank tail.val)
    let ((path, last), left) ← dottedKey next.val
    some ((key :: path, last), next.after left)
  | _ => some (([], key), rest)
termination_by s.length
decreasing_by exact next.property

/-- More keys than this are not joined. -/
def maxKeys : Nat := 80

/-- The next character after space is `mark`. -/
def expect (mark : Char) (s : List Char) : Option (Rest s) :=
  match Text.cutAfter isBlank s with
  | none => none
  | some (c, rest) => if c = mark then some rest else none

/-- A key, an equals sign and a value. -/
def pair (value : (s : List Char) → Reading Json s) (s : List Char) :
    Reading ((List String × String) × Json) s := do
  let (key, afterKey) ← dottedKey s
  if maxKeys ≤ key.1.length + 1 then none
  else
    let afterMark ← expect '=' afterKey.val
    let start := skipBlank afterMark.val
    let (v, rest) ← value start.val
    some ((key, v), afterKey.after (afterMark.after (start.after rest)))

/-! ### Values -/

/-- The elements of an array up to its closing bracket; a comma may follow the last one. -/
def elements (value : (s : List Char) → Reading Json s) (s : List Char) :
    Reading (List Json) s :=
  let start := skipLines s
  match expect ']' start.val with
  | some closed => some ([], start.after closed)
  | none => do
    let (v, rest) ← value start.val
    let next := (start.after rest).upTo (skipLines rest.val)
    match expect ']' next.val with
    | some closed => some ([v], next.after closed)
    | none => do
      let afterMark ← expect ',' next.val
      let left := next.after afterMark
      let (more, closed) ← elements value left.val
      some (v :: more, left.after closed)
termination_by s.length
decreasing_by exact left.property

/-- The pairs of an inline table up to its closing brace, with a comma between them. -/
def inlinePairs (value : (s : List Char) → Reading Json s) (entries : Entries) (s : List Char) :
    Reading Entries s := do
  let start := skipBlank s
  let (((path, key), v), rest) ← pair value start.val
  let entries ← entries.assign path key v
  let next := start.after rest
  match expect '\x7d' next.val with
  | some closed => some (entries, next.after closed)
  | none => do
    let afterMark ← expect ',' next.val
    let left := next.after afterMark
    let (all, closed) ← inlinePairs value entries left.val
    some (all, left.after closed)
termination_by s.length
decreasing_by exact left.property

/-- An inline table after its opening brace. -/
def inlineTable (value : (s : List Char) → Reading Json s) (s : List Char) : Reading Json s :=
  match expect '\x7d' s with
  | some rest => some (.object [], rest)
  | none => do
    let (entries, rest) ← inlinePairs value [] s
    some ((Entry.table .header entries).toJson, rest)

/-- A date may be joined to a time by a space. -/
def spacedWord (s : List Char) : List Char :=
  let first := s.takeWhile isWordChar
  match s.drop first.length with
  | ' ' :: h₁ :: h₂ :: ':' :: rest =>
    if isDate first ∧ h₁.isDigit ∧ h₂.isDigit then
      first ++ ' ' :: h₁ :: h₂ :: ':' :: rest.takeWhile isWordChar
    else first
  | _ => first

def scalar (s : List Char) : Reading Json s :=
  let cs := spacedWord s
  if h : 0 < cs.length ∧ cs.length ≤ s.length then
    (word cs).map fun v => (v, .drop cs.length s h.1 h.2)
  else none

/-- A value. `inner` reads what stands in brackets; it is absent where no more brackets may be
opened. -/
def valueIn (inner : Option ((s : List Char) → Reading Json s)) (s : List Char) :
    Reading Json s :=
  match s with
  | [] => none
  | c :: rest =>
    if c = '"' ∨ c = '\'' then do
      let (cs, left) ← text (c :: rest)
      some (.string cs, left)
    else if c = '[' then do
      let (values, left) ← elements (← inner) rest
      some (.array values, left.behind c)
    else if c = '\x7b' then do
      let (v, left) ← inlineTable (← inner) rest
      some (v, left.behind c)
    else scalar (c :: rest)

/-- A value within which `depth` more brackets may be open at once. -/
def valueWithin : Nat → (s : List Char) → Reading Json s
  | 0 => valueIn none
  | depth + 1 => valueIn (some (valueWithin depth))

def maxDepth : Nat := 79

/-! ### Documents -/

/-- What is known while a document is read: its tables, and the header in force. -/
structure Document where
  entries : Entries
  header : List String

/-- A header in brackets, without the opening one. -/
def headerPath (s : List Char) : Reading (List String × String) s := do
  let start := skipBlank s
  let (key, rest) ← dottedKey start.val
  if maxKeys ≤ key.1.length + 1 then none
  else
    let after ← expect ']' rest.val
    some (key, start.after (rest.after after))

/-- A bracket right behind another one. -/
def secondBracket (s : List Char) : Option (Rest s) :=
  match s with
  | ']' :: rest => some (.tail ']' rest)
  | _ => none

/-- A header line after its first bracket; a second bracket adds to a list of tables. -/
def header (d : Document) (s : List Char) : Reading Document s :=
  match s with
  | '[' :: rest => do
    let ((path, key), left) ← headerPath rest
    let after ← secondBracket left.val
    let entries ← d.entries.append path key
    some (⟨entries, path ++ [key]⟩, (left.after after).behind '[')
  | s => do
    let ((path, key), left) ← headerPath s
    let entries ← d.entries.define path key
    some (⟨entries, path ++ [key]⟩, left)

/-- A line that defines a table or gives a key a value. -/
def statement (d : Document) (s : List Char) : Reading Document s :=
  match s with
  | '[' :: rest => do
    let (d, left) ← header d rest
    some (d, left.behind '[')
  | s => do
    let (((path, key), v), left) ← pair (valueWithin maxDepth) s
    let entries ← d.entries.assignUnder d.header path key v
    some (⟨entries, d.header⟩, left)

/-- Takes the lines of a document one after the other. -/
def lines (d : Document) (s : List Char) : Option Document :=
  let start := skipLines s
  if start.val.isEmpty then some d
  else do
    let (d, rest) ← statement d start.val
    let next := start.after (rest.upTo (← endOfLine rest.val))
    lines d next.val
termination_by s.length
decreasing_by exact next.property

/-- A byte order mark in front of a document does not belong to it. -/
def withoutMark : List Char → List Char
  | '\uFEFF' :: rest => rest
  | s => s

def read (text : String) : Option Json := do
  let d ← lines ⟨[], []⟩ (withoutMark text.toList)
  some (Entry.table .header d.entries).toJson

end Conformance.Toml
