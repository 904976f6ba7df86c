import OutlineNav.CommandLine.Grammar
import OutlineNav.Configuration.Load
import OutlineNav.Navigator
import OutlineNav.OutputFormat

/-!
# The commands of the program

What the program can be asked on its command line. The grammar says which command lines there are,
`Invocation.parse` what they mean. Options of all commands may stand behind any command, and count
where they stand deepest.
-/

namespace OutlineNav.CommandLine

/-! ## Commands -/

inductive ConfigCommand where
  | init (level : Config.Level) (force : Bool)
  | show
  | path (level : Config.Level)
  deriving DecidableEq, Repr

inductive Command where
  | outline (file : String) (raw : Bool)
  | resolve (location : String)
  | goto (direction : Direction) (locations : List String) (select : Bool)
  /-- `keptOpen` are the positions around which nothing is folded. -/
  | fold (file : String) (types strings : Bool) (keptOpen : List String)
  | session (file : String)
  | config (command : ConfigCommand)
  deriving DecidableEq, Repr

structure Options where
  format : Option OutputFormat
  /-- The recording that answers instead of language servers. -/
  recording : Option String
  deriving DecidableEq, Repr

structure Invocation where
  command : Command
  options : Options
  deriving DecidableEq, Repr

/-! ## The grammar -/

def isFile (s : String) : Bool := s ≠ ""

def shared : List Argument :=
  [.option "format" fun s => (OutputFormat.ofName? s).isSome,
    .flag "verbose" (some 'v'),
    .option "outline-json" isFile]

def file : Argument := .positional "file" isFile

def global : Argument := .flag "global" none

/-- A command below the program. -/
def top (name : String) (options positionals : List Argument) (commands : List Grammar) : Grammar :=
  .command s!"symnav-{name}" name (options ++ shared) positionals commands

def configGrammar : Grammar :=
  let sub (name : String) (options : List Argument) : Grammar :=
    .command s!"symnav-config-{name}" name (options ++ shared) [] []
  top "config" [] []
    [sub "init" [global, .flag "force" (some 'f')], sub "show" [], sub "path" [global]]

def grammar : Grammar :=
  .command "symnav" "symnav" shared [] [
    top "outline" [.flag "raw" none] [file] [],
    top "resolve" [] [.positional "location" fun _ => true] [],
    top "goto" [.flag "select" (some 's')]
      [.positional "direction" fun s => (Direction.parse? s).isSome, .positionals "locations"] [],
    top "fold" [.flag "types" none, .flag "strings" none, .listOption "except"] [file] [],
    top "session" [] [file] [],
    configGrammar]

/-! ## Meaning -/

def configLevel (l : Level) : Config.Level := if l.has "global" then .user else .project

def ConfigCommand.ofLevel? (l : Level) : Option ConfigCommand :=
  match l.command with
  | "init" => some (.init (configLevel l) (l.has "force"))
  | "show" => some .show
  | "path" => some (.path (configLevel l))
  | _ => none

def Command.ofLevels? : List Level → Option Command
  | [_, l] =>
    match l.command with
    | "outline" => return .outline (← l.value? "file") (l.has "raw")
    | "resolve" => return .resolve (← l.value? "location")
    | "goto" => do
      let direction ← (l.value? "direction").bind Direction.parse?
      return .goto direction (l.values "locations") (l.has "select")
    | "fold" =>
      return .fold (← l.value? "file") (l.has "types") (l.has "strings") (l.values "except")
    | "session" => return .session (← l.value? "file")
    | _ => none
  | [_, _, l] => return .config (← ConfigCommand.ofLevel? l)
  | _ => none

/-- The value of an option of all commands where it stands deepest. -/
def sharedValue? (levels : List Level) (name : String) : Option String :=
  levels.reverse.findSome? (·.value? name)

namespace Invocation

def ofLevels? (levels : List Level) : Option Invocation := do
  let command ← Command.ofLevels? levels
  let format := (sharedValue? levels "format").bind OutputFormat.ofName?
  return ⟨command, format, sharedValue? levels "outline-json"⟩

def parse (words : List String) : Except Stop Invocation := do
  match ofLevels? (← CommandLine.parse grammar words) with
  | some invocation => .ok invocation
  | none => .error .misuse

end Invocation

end OutlineNav.CommandLine
