import Conformance.CommandLine.Commands

/-!
Scripts that make a shell complete the program's commands and flags.
-/

namespace Conformance.CommandLine

/-- A command with the words that may come after it. -/
structure Completion where
  /-- The command's path below the program. -/
  path : List String
  commands : List (String × String)
  flags : List (String × String)

def completionOf {σ : Type} (c : Command σ) : Completion :=
  ⟨c.path.drop 1, c.subcommands, c.flags.map fun f => (f.name, f.about)⟩

def completionList : List Completion :=
  [completionOf root, completionOf run, completionOf matrix, completionOf config,
    completionOf init, completionOf completions]

/-- All words after a command: commands below it, then flags. -/
def Completion.words (c : Completion) : List String :=
  c.commands.map (·.1) ++ c.flags.map ("--" ++ ·.1)

def joinWords (words : List String) : String := String.intercalate " " words

/-- A text without the characters that end a quotation in a shell. -/
def shellSafe (text : String) : String :=
  String.ofList (text.toList.filter fun c => !(['\'', '[', ']', ':', '"'].contains c))

def bashCase (c : Completion) : List String :=
  ["        \"" ++ joinWords c.path ++ "\")",
    "            words=\"" ++ joinWords c.words ++ "\"", "            ;;"]

/-- The path typed so far is made of all words without a hyphen before the current one. -/
def bashScript : List String :=
  ["_gatecheck() \x7b", "    local words=\"\" path=\"\" word",
    "    for word in \"$\x7bCOMP_WORDS[@]:1:COMP_CWORD-1\x7d\"; do",
    "        [[ $word == -* ]] || path=\"$\x7bpath:+$path \x7d$word\"", "    done",
    "    case \"$path\" in"]
  ++ completionList.flatMap bashCase
  ++ ["    esac",
    "    COMPREPLY=($(compgen -W \"$words\" -- \"$\x7bCOMP_WORDS[COMP_CWORD]\x7d\"))", "\x7d",
    "complete -F _gatecheck -o bashdefault -o default gatecheck"]

def zshCase (c : Completion) : List String :=
  ["        '" ++ joinWords c.path ++ "')",
    "            compadd -- " ++ joinWords c.words, "            ;;"]

def zshScript : List String :=
  ["#compdef gatecheck", "_gatecheck() \x7b",
    "    local -a typed=(\"$\x7b(@)words[2,CURRENT-1]:#-*\x7d\")", "    case \"$typed\" in"]
  ++ completionList.flatMap zshCase
  ++ ["    esac", "\x7d", "compdef _gatecheck gatecheck"]

/-- The condition that a path, and nothing below it, was typed. -/
def fishCondition (c : Completion) : String :=
  match c.path.getLast? with
  | none => "__fish_use_subcommand"
  | some last => "__fish_seen_subcommand_from " ++ last

def fishLines (c : Completion) : List String :=
  let start := "complete -c gatecheck -n '" ++ fishCondition c ++ "' "
  (c.commands.map fun (name, about) =>
      start ++ "-f -a \"" ++ name ++ "\" -d '" ++ shellSafe about ++ "'")
    ++ c.flags.map fun (name, about) => start ++ "-l " ++ name ++ " -d '" ++ shellSafe about ++ "'"

def fishScript : List String := completionList.flatMap fishLines

def elvishCase (c : Completion) : List String :=
  ["        &'" ++ joinWords c.path ++ "'=\x7b"]
    ++ (c.words.map fun w => "            put '" ++ w ++ "'") ++ ["        \x7d"]

def elvishScript : List String :=
  ["use str", "set edit:completion:arg-completer[gatecheck] = \x7b|@words|",
    "    var typed = []", "    for word $words[1..-1] \x7b",
    "        if (not (str:has-prefix $word '-')) \x7b set typed = [$@typed $word] \x7d", "    \x7d",
    "    var completions = ["]
  ++ completionList.flatMap elvishCase
  ++ ["    ]", "    $completions[(str:join ' ' $typed)]", "\x7d"]

def powershellCase (c : Completion) : List String :=
  ["        '" ++ joinWords c.path ++ "' \x7b"]
    ++ (c.words.map fun w => "            '" ++ w ++ "'") ++ ["        \x7d"]

def powershellScript : List String :=
  ["Register-ArgumentCompleter -Native -CommandName 'gatecheck' -ScriptBlock \x7b",
    "    param($wordToComplete, $commandAst, $cursorPosition)",
    "    $typed = ($commandAst.CommandElements | Select-Object -Skip 1 |",
    "        ForEach-Object \x7b $_.ToString() \x7d |",
    "        Where-Object \x7b $_ -ne $wordToComplete -and -not $_.StartsWith('-') \x7d) -join ' '",
    "    $words = switch ($typed) \x7b"]
  ++ completionList.flatMap powershellCase
  ++ ["    \x7d", "    $words | Where-Object \x7b $_ -like \"$wordToComplete*\" \x7d", "\x7d"]

/-- The script for a shell. -/
def completionScript : Shell → List String
  | .bash => bashScript
  | .elvish => elvishScript
  | .fish => fishScript
  | .powershell => powershellScript
  | .zsh => zshScript

end Conformance.CommandLine
