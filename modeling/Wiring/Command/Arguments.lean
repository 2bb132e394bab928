import Wiring.Command.Basic
import Wiring.Text.Fields

/-!
# The words of a command line

A command line is some general options, the name of a command, and the options and arguments of that
command; general options may stand after the name too, and those count more. An option has a long
name and may have a letter; letters can be joined. A value follows its option as the next word or,
after `=`, in the same word; after a letter the `=` may be missing. An option other than a
repeatable one is given once on each side of the name. After a bare `--` no word is an option.
-/

namespace Wiring

/-- The options. -/
inductive OptionName where
  | root | config | verbose | help | out | source | denyWarnings
  deriving DecidableEq, Repr

/-- Why no command is run. -/
inductive Refusal where
  /-- The user asked how commands are written. -/
  | help
  /-- The words are no command. -/
  | malformed
  deriving DecidableEq, Repr

/-- The options and arguments on one side of the name of the command. -/
structure Given where
  root? : Option Disk.Path := none
  config? : Option Disk.Path := none
  out? : Option Disk.Path := none
  sources : List Disk.Path := []
  denyWarnings : Bool := false
  /-- The words that are no options, the latest first. -/
  words : List String := []
  deriving Repr, Inhabited

namespace OptionName

/-- The options that can stand anywhere, by their long names. -/
def general : List (String × OptionName) :=
  [("root", root), ("config", config), ("verbose", verbose), ("help", help)]

/-- The options of compiling, by their long names. -/
def ofCompile : List (String × OptionName) :=
  [("out", out), ("src", source), ("deny-warnings", denyWarnings)] ++ general

/-- The letter of an option. -/
def letter? : OptionName → Option Char
  | config => some 'c'
  | verbose => some 'v'
  | help => some 'h'
  | out => some 'o'
  | root | source | denyWarnings => none

/-- Whether an option has a value. -/
def hasValue : OptionName → Bool
  | root | config | out | source => true
  | verbose | help | denyWarnings => false

end OptionName

namespace Given

/-- Enters an option without a value. -/
def enter (g : Given) : OptionName → Except Refusal Given
  | .verbose => .ok g
  | .help => .error .help
  | .denyWarnings =>
    if g.denyWarnings then .error .malformed else .ok { g with denyWarnings := true }
  | .root | .config | .out | .source => .error .malformed

/-- A value that must not be given yet. -/
def once (old : Option Disk.Path) (value : String) : Except Refusal (Option Disk.Path) :=
  if old.isSome then .error .malformed else .ok (some value)

/-- Enters an option with its value. All values are paths, and no path is empty. -/
def enterValue (g : Given) (o : OptionName) (value : String) : Except Refusal Given :=
  if value = "" then .error .malformed
  else
    match o with
    | .root => return { g with root? := ← once g.root? value }
    | .config => return { g with config? := ← once g.config? value }
    | .out => return { g with out? := ← once g.out? value }
    | .source => .ok { g with sources := g.sources ++ [value] }
    | .verbose | .help | .denyWarnings => .error .malformed

/-- Enters joined letters. The second part of the result is an option that still wants its value. -/
def enterLetters (known : List (String × OptionName)) (g : Given) :
    List Char → Except Refusal (Given × Option OptionName)
  | [] => .ok (g, none)
  | c :: rest =>
    match (known.map (·.2)).find? fun o => o.letter? == some c with
    | none => .error .malformed
    | some o =>
      if o.hasValue then
        match rest with
        | [] => .ok (g, some o)
        | '=' :: value => return (← g.enterValue o (String.ofList value), none)
        | value => return (← g.enterValue o (String.ofList value), none)
      else do (← g.enter o).enterLetters known rest

/-- Enters an option by its long name, with its value if that is in the same word. -/
def enterLong (known : List (String × OptionName)) (g : Given) (word : List Char) :
    Except Refusal (Given × Option OptionName) :=
  let name := word.takeWhile (· != '=')
  match known.lookup (String.ofList name), word.drop name.length with
  | none, _ => .error .malformed
  | some o, [] => if o.hasValue then .ok (g, some o) else return (← g.enter o, none)
  | some o, _ :: value => return (← g.enterValue o (String.ofList value), none)

/-- Enters words none of which is an option. -/
def enterWords (g : Given) (ws : List String) : Given :=
  { g with words := ws.reverse ++ g.words }

/-- Reads words. `wanting` is the option whose value is the next word; `names` are the words that
end the reading, which gives the rest with the word first. -/
def read (known : List (String × OptionName)) (names : List String) (wanting : Option OptionName)
    (g : Given) : List String → Except Refusal (Given × List String)
  | [] => if wanting.isSome then .error .malformed else .ok (g, [])
  | w :: ws =>
    match w.toList, wanting with
    | '-' :: _ :: _, some _ => .error .malformed
    | _, some o => do (← g.enterValue o w).read known names none ws
    | ['-', '-'], none => .ok (g.enterWords ws, [])
    | '-' :: '-' :: word, none => do
      let (g, wanting) ← g.enterLong known word
      g.read known names wanting ws
    | '-' :: c :: cs, none => do
      let (g, wanting) ← g.enterLetters known (c :: cs)
      g.read known names wanting ws
    | _, none =>
      if names.contains w then .ok (g, w :: ws)
      else ({ g with words := w :: g.words } : Given).read known names none ws

end Given

namespace Command

/-- The names of the commands. -/
def names : List String :=
  ["compile", "routes", "services", "match"]

/-- How commands are written. -/
def usage : String :=
  Outcome.lines [
    "Compile container, router and dispatch tables ahead of time", "",
    "Usage: prewire [OPTIONS] <COMMAND>", "",
    "Commands:",
    "  compile   Analyse the sources, compile and write the artifacts",
    "              -o, --out <DIR>    Artifact directory, overrides the configuration",
    "              --src <DIR>        Source directory relative to the root, repeatable",
    "              --deny-warnings    Fail when the compilation reports any diagnostic",
    "  routes    List the compiled routes",
    "  services  List the compiled services",
    "  match <METHOD> <PATH>",
    "            Show which target a request would be dispatched to", "",
    "Options:",
    "  --root <DIR>         Project root (default: current directory)",
    "  -c, --config <FILE>  Configuration file (default: <root>/prewire.toml)",
    "  -v, --verbose        More log output",
    "  -h, --help           Print help"]

/-- The command with a name, from the options and arguments after it. -/
def ofGiven (name : String) (g : Given) : Except Refusal Command :=
  match name, g.words.reverse with
  | "compile", [] =>
    .ok (.compile { out? := g.out?, sources := g.sources, denyWarnings := g.denyWarnings })
  | "routes", [] => .ok .routes
  | "services", [] => .ok .services
  | "match", [method, path] => .ok (.find method path)
  | _, _ => .error .malformed

/-- Whether the words after `help` name something that help is given on. -/
def isHelpTopic : List String → Bool
  | [] => true
  | [topic] => (names ++ ["help"]).contains topic
  | _ => false

/-- The command that the words of a command line spell, with the general options. -/
def ofArguments (args : List String) : Except Refusal (Options × Command) := do
  let (before, rest) ← ({} : Given).read OptionName.general ("help" :: names) none args
  match before.words, rest with
  | [], "help" :: topic => .error (if isHelpTopic topic then .help else .malformed)
  | [], name :: rest =>
    let known := if name = "compile" then OptionName.ofCompile else OptionName.general
    let (after, _) ← ({} : Given).read known [] none rest
    let command ← ofGiven name after
    let options : Options := {
      root := (after.root?.or before.root?).getD "."
      config? := after.config?.or before.config? }
    return (options, command)
  | _, _ => .error .malformed

end Command

end Wiring
