import Conformance.Text.Split

/-!
Reading command line arguments. A flag is given by its name after two hyphens or by its letter after
one; letters may be joined, and a value may follow in the same word. A value is read when the next
flag or the end is reached, so an unknown flag is reported before a bad value in front of it.
-/

namespace Conformance.CommandLine

/-- Why arguments do not ask for a command. Help and version are among the reasons. -/
inductive Refusal where
  | unknownArgument
  | invalidSubcommand
  | noValue
  | notListed
  | invalid
  | repeated
  | valueNotWanted
  | positionalMissing
  | help (path : List String)
  | helpOnNothing (path : List String)
  | version
deriving DecidableEq, Repr

/-- What giving a flag does to the settings `σ`. -/
inductive Action (σ : Type) where
  | switch (set : σ → σ)
  | value (repeatable : Bool) (set : String → σ → Except Refusal σ)
  | help
  | version

structure Flag (σ : Type) where
  name : String
  letter : Option Char
  action : Action σ
  /-- The name of its value, where it has one, for the help text. -/
  placeholder : String
  about : String

/-- A word without hyphens. -/
structure Positional (σ : Type) where
  placeholder : String
  about : String
  set : String → σ → Except Refusal σ

structure Command (σ : Type) where
  /-- How the command is called, from the program's name on. -/
  path : List String
  about : String
  flags : List (Flag σ)
  positional : Option (Positional σ)
  /-- Names of the commands below this one, with what they are about. -/
  subcommands : List (String × String)

/-- A flag, or the positional, whose value is not read yet. -/
inductive Pending (σ : Type) where
  | flag (f : Flag σ) (value : Option String)
  | positional (p : Positional σ) (value : String)

structure Progress (σ : Type) where
  settings : σ
  /-- The names of the flags given so far. -/
  given : List String
  pending : Option (Pending σ)
  /-- The positional has been given. -/
  isFilled : Bool

variable {σ : Type}

namespace Progress

def start (settings : σ) : Progress σ := ⟨settings, [], none, false⟩

/-- Only repeatable flags may be given twice. -/
def note (p : Progress σ) (f : Flag σ) (repeatable : Bool) : Except Refusal (Progress σ) :=
  if !repeatable && p.given.contains f.name then .error .repeated
  else .ok { p with given := f.name :: p.given }

/-- Carries out a flag with the value it got. -/
def carryOut (path : List String) (p : Progress σ) (f : Flag σ) (value : Option String) :
    Except Refusal (Progress σ) :=
  match f.action, value with
  | .help, _ => .error (.help path)
  | .version, _ => .error .version
  | .switch set, _ => do
    let p ← p.note f false
    pure { p with settings := set p.settings }
  | .value _ _, none => .error .noValue
  | .value repeatable set, some text => do
    let p ← p.note f repeatable
    pure { p with settings := ← set text p.settings }

/-- Reads the value that is pending. -/
def settle (path : List String) (p : Progress σ) : Except Refusal (Progress σ) :=
  match p.pending with
  | none => .ok p
  | some (.flag f value) => carryOut path { p with pending := none } f value
  | some (.positional q value) => do
    pure { p with settings := ← q.set value p.settings, pending := none }

/-- A flag still waits for its value. -/
def isWaiting (p : Progress σ) : Bool :=
  match p.pending with
  | some (.flag _ none) => true
  | _ => false

/-- Gives a flag a value, or lets it wait for one. -/
def give (path : List String) (p : Progress σ) (f : Flag σ) (value : Option String) :
    Except Refusal (Progress σ) := do
  let p ← p.settle path
  match f.action, value with
  | .value _ _, none => pure { p with pending := some (.flag f none) }
  | _, value => p.carryOut path f value

end Progress

namespace Command

def takesValue (f : Flag σ) : Bool :=
  match f.action with
  | .value _ _ => true
  | _ => false

/-- A word after two hyphens: a name, or a name and a value with an equals sign between them. -/
def long (c : Command σ) (p : Progress σ) (word : List Char) : Except Refusal (Progress σ) :=
  let (name, value) := match Text.cutAt '=' word with
    | some (name, value) => (name, some (String.ofList value))
    | none => (word, none)
  match c.flags.find? (·.name.toList = name) with
  | none => .error .unknownArgument
  | some f =>
    if value.isSome && !takesValue f then .error .valueNotWanted else p.give c.path f value

/-- The value in the same word as a letter, with or without an equals sign. -/
def attached : List Char → Option String
  | [] => none
  | '=' :: value => some (String.ofList value)
  | value => some (String.ofList value)

/-- Letters after one hyphen. The rest of the word after a flag with a value is its value. -/
def short (c : Command σ) (p : Progress σ) : List Char → Except Refusal (Progress σ)
  | [] => .ok p
  | letter :: rest =>
    match c.flags.find? (·.letter = some letter) with
    | none => .error .unknownArgument
    | some f =>
      if takesValue f then p.give c.path f (attached rest)
      else do c.short (← p.give c.path f none) rest

/-- The complaint about a word that nothing asks for. -/
def strayWord (c : Command σ) (afterHyphens : Bool) (word : String) : Refusal :=
  if c.subcommands.isEmpty then .unknownArgument
  else if afterHyphens && c.subcommands.any (·.1 = word) then .unknownArgument
  else .invalidSubcommand

/-- A word that is no flag. -/
def plainWord (c : Command σ) (p : Progress σ) (afterHyphens : Bool) (word : String) :
    Except Refusal (Progress σ) :=
  match c.positional with
  | some q =>
    if p.isFilled then .error (c.strayWord afterHyphens word)
    else do
      let p ← p.settle c.path
      pure { p with pending := some (.positional q word), isFilled := true }
  | none => .error (c.strayWord afterHyphens word)

/-- A word before a pair of hyphens: a flag, the value a flag waits for, or a plain word. -/
def word (c : Command σ) (p : Progress σ) (w : String) : Except Refusal (Progress σ) :=
  match w.toList with
  | '-' :: '-' :: name => c.long p name
  | '-' :: letter :: letters => c.short p (letter :: letters)
  | _ =>
    match p.pending with
    | some (.flag f none) => .ok { p with pending := some (.flag f (some w)) }
    | _ => c.plainWord p false w

/-- Reads the words up to the name of a command below this one, which is returned with the words
after it. Words after a pair of hyphens are no flags. -/
def read (c : Command σ) (p : Progress σ) (afterHyphens : Bool) :
    List String → Except Refusal (Progress σ × Option (String × List String))
  | [] => do pure (← p.settle c.path, none)
  | w :: rest =>
    if afterHyphens then do c.read (← c.plainWord p true w) true rest
    else if !p.isWaiting && c.subcommands.any (·.1 = w) then .ok (p, some (w, rest))
    else if w = "--" then c.read p true rest
    else do c.read (← c.word p w) false rest

/-- The settings that arguments amount to, for a command with none below it. -/
def settings (c : Command σ) (initial : σ) (arguments : List String) : Except Refusal σ := do
  let (p, _) ← c.read (.start initial) false arguments
  if c.positional.isSome && !p.isFilled then throw .positionalMissing
  pure p.settings

end Command

end Conformance.CommandLine
