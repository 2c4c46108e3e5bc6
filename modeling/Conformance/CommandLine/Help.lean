import Conformance.CommandLine.Commands
import Conformance.Text.Columns

/-!
Help pages, made from the descriptions of the commands.
-/

namespace Conformance.CommandLine

/-- A flag as it is typed. -/
def flagUsage {σ : Type} (f : Flag σ) : String :=
  let letter := match f.letter with
    | some c => "-" ++ String.singleton c ++ ", "
    | none => "    "
  letter ++ "--" ++ f.name
    ++ if f.placeholder.isEmpty then "" else " <" ++ f.placeholder ++ ">"

/-- Entries in two columns under a title, after an empty line; nothing where there are none. -/
def helpSection (title : String) (entries : List (String × String)) : List String :=
  if entries.isEmpty then []
  else
    let width := entries.foldl (fun w (name, _) => max w name.length) 0
    "" :: (title ++ ":")
      :: entries.map fun (name, about) => "  " ++ Text.padChars width name ++ "  " ++ about

/-- What may follow the path of a command. -/
def usageTail {σ : Type} (c : Command σ) : String :=
  let options := if c.subcommands.isEmpty && c.positional.isNone then " [OPTIONS]" else ""
  let word := match c.positional with
    | some p => " <" ++ p.placeholder ++ ">"
    | none => ""
  options ++ word ++ if c.subcommands.isEmpty then "" else " <COMMAND>"

def helpLines {σ : Type} (c : Command σ) : List String :=
  [c.about, "", "Usage: " ++ String.intercalate " " c.path ++ usageTail c]
    ++ helpSection "Commands" c.subcommands
    ++ helpSection "Arguments"
      ((c.positional.map fun p => ("<" ++ p.placeholder ++ ">", p.about)).toList)
    ++ helpSection "Options" (c.flags.map fun f => (flagUsage f, f.about))

/-- The page of the help command itself. -/
def helpCommandLines (path : List String) : List String :=
  [helpEntry.2, "", "Usage: " ++ String.intercalate " " path ++ " [COMMAND]..."]
    ++ helpSection "Arguments" [("[COMMAND]...", "Print help for the subcommand(s)")]

/-- The help page for a path. -/
def helpFor : List String → List String
  | ["gatecheck"] => helpLines root
  | ["gatecheck", "run"] => helpLines run
  | ["gatecheck", "matrix"] => helpLines matrix
  | ["gatecheck", "config"] => helpLines config
  | ["gatecheck", "config", "init"] => helpLines init
  | ["gatecheck", "completions"] => helpLines completions
  | path => helpCommandLines path

def versionLine : String := programName ++ " 0.3.0"

end Conformance.CommandLine
