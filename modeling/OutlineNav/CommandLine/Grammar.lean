import OutlineNav.Named

/-!
# Grammars of command lines

A command has options, positional arguments and, instead of these, commands below it. Its words are
read from left to right. Options are written `--name` or by one letter behind a dash; letters of
several flags may share a dash. The value of an option is the next word, or stands behind an equals
sign. Behind the word `--` all words are positional.

The values of an option or a positional argument are judged when the next one begins or the command
ends, a command above another one after it. Until then a question for help or for the version is
answered first.
-/

namespace OutlineNav.CommandLine

/-! ## Grammars -/

inductive Takes where
  | nothing
  | oneValue
  /-- One value or more each time, and any number of times. -/
  | values
  deriving DecidableEq, Repr

structure Argument where
  name : String
  /-- The letter of an option that has one. -/
  letter : Option Char
  takes : Takes
  accepts : String → Bool

namespace Argument

def flag (name : String) (letter : Option Char) : Argument :=
  ⟨name, letter, .nothing, fun _ => true⟩

def option (name : String) (accepts : String → Bool) : Argument := ⟨name, none, .oneValue, accepts⟩

def listOption (name : String) : Argument := ⟨name, none, .values, fun _ => true⟩

def positional (name : String) (accepts : String → Bool) : Argument :=
  ⟨name, none, .oneValue, accepts⟩

def positionals (name : String) : Argument := ⟨name, none, .values, fun _ => true⟩

end Argument

/-- A command: its name together with the names of the commands above it, its own name, and what it
can be given. -/
inductive Grammar where
  | command (fullName name : String) (options positionals : List Argument) (commands : List Grammar)

namespace Grammar

def fullName : Grammar → String
  | .command fullName _ _ _ _ => fullName

def name : Grammar → String
  | .command _ name _ _ _ => name

def options : Grammar → List Argument
  | .command _ _ options _ _ => options

/-- The positional arguments, each of which has to be given. -/
def positionals : Grammar → List Argument
  | .command _ _ _ positionals _ => positionals

/-- The commands of which one has to follow, if there are any. -/
def commands : Grammar → List Grammar
  | .command _ _ _ _ commands => commands

def named? (g : Grammar) (name : String) : Option Grammar := g.commands.find? (·.name == name)

end Grammar

/-- Why a command line is not carried out. -/
inductive Stop where
  /-- It does not follow the grammar. -/
  | misuse
  /-- It asks for help. -/
  | help
  /-- It asks for the version of the command with the full name. -/
  | version (fullName : String)
  deriving DecidableEq, Repr

/-- What a command was given: the values of its arguments by their names. -/
structure Level where
  command : String
  given : List (String × List String)
  deriving DecidableEq, Repr

namespace Level

def has (l : Level) (name : String) : Bool := (Named.lookup? name l.given).isSome

def values (l : Level) (name : String) : List String := (Named.lookup? name l.given).getD []

def value? (l : Level) (name : String) : Option String := (l.values name).head?

end Level

/-! ## Words -/

inductive Word where
  | separator
  | long (name : String) (value : Option String)
  | short (letters : List Char)
  | plain
  deriving DecidableEq, Repr

def Word.ofChars : List Char → Word
  | ['-', '-'] => .separator
  | '-' :: '-' :: cs =>
    let value := (cs.dropWhile (· ≠ '=')).drop 1
    .long (String.ofList (cs.takeWhile (· ≠ '=')))
      (if cs.contains '=' then some (String.ofList value) else none)
  | '-' :: c :: cs => .short (c :: cs)
  | _ => .plain

/-! ## Reading the words of a command -/

/-- What takes the next word if it is no option. -/
inductive Taker where
  /-- A command or the next positional argument. -/
  | free
  /-- The option whose values are collected. -/
  | option
  /-- The positional argument whose values are collected. -/
  | positional
  deriving DecidableEq, Repr

structure State where
  given : List (String × List String)
  /-- The argument whose values are not judged yet. -/
  pending : Option (Argument × List String)
  taker : Taker
  /-- How many positional arguments are complete. -/
  position : Nat
  /-- The separator was read. -/
  separated : Bool

namespace State

def initial : State := ⟨[], none, .free, 0, false⟩

/-- Judges the values of an argument and keeps them. -/
def record (st : State) (a : Argument) (values : List String) : Except Stop State :=
  let before := Named.lookup? a.name st.given
  let count := match a.takes with
    | .nothing => values.length == 0 && before.isNone
    | .oneValue => values.length == 1 && before.isNone
    | .values => values.length != 0
  if count && values.all a.accepts then
    .ok { st with given := Named.insert a.name (before.getD [] ++ values) st.given }
  else .error .misuse

/-- Judges the values that were collected. -/
def settle (st : State) : Except Stop State :=
  match st.pending with
  | some (a, values) => { st with pending := none }.record a values
  | none => .ok st

def begin (st : State) (a : Argument) : Except Stop State := do
  let st ← st.settle
  return { st with pending := some (a, []) }

def collect (st : State) (value : String) : State :=
  { st with pending := st.pending.map fun (a, values) => (a, values ++ [value]) }

/-! ### Options -/

def flag (st : State) (a : Argument) : Except Stop State := do
  let st ← (← st.settle).record a []
  return { st with taker := .free }

/-- A flag by its name or letter; help and version are flags of every command. -/
def flagOf (g : Grammar) (st : State) (isHelp isVersion : Bool) (a? : Option Argument) :
    Except Stop State :=
  match a? with
  | some a => if a.takes = .nothing then st.flag a else .error .misuse
  | none => do
    let _ ← if isHelp || isVersion then st.settle else .error .misuse
    .error (if isHelp then .help else .version g.fullName)

def long (g : Grammar) (st : State) (name : String) (value? : Option String) : Except Stop State :=
  let a? := g.options.find? (·.name == name)
  match a?.filter (·.takes ≠ .nothing), value? with
  | some a, some value => do
    let st ← (← st.settle).record a [value]
    return { st with taker := .free }
  | some a, none => do
    let st ← st.begin a
    return { st with taker := .option }
  | none, some _ => .error .misuse
  | none, none => st.flagOf g (name == "help") (name == "version") a?

def letter (g : Grammar) (st : State) (c : Char) : Except Stop State :=
  st.flagOf g (c == 'h') (c == 'V') (g.options.find? (·.letter == some c))

/-! ### Other words -/

/-- A value of the option whose values are collected. -/
def optionValue (st : State) (value : String) : State :=
  let st := st.collect value
  match st.pending with
  | some (⟨_, _, .values, _⟩, _) => st
  | _ => { st with taker := .free }

def positionalValue (g : Grammar) (st : State) (value : String) : Except Stop State :=
  match g.positionals[st.position]? with
  | none => .error .misuse
  | some a => do
    let st ← if st.taker = .positional then .ok st else st.begin a
    let st := st.collect value
    return if a.takes = .values then { st with taker := .positional }
      else { st with taker := .free, position := st.position + 1 }

/-- Reads a word that is not the name of a command. -/
def read (g : Grammar) (st : State) (word : String) : Except Stop State :=
  if st.separated then st.positionalValue g word
  else
    match Word.ofChars word.toList with
    | .separator => .ok { st with separated := true }
    | .long name value? => st.long g name value?
    | .short letters => letters.foldlM (·.letter g) st
    | .plain =>
      if st.taker = .option then .ok (st.optionValue word) else st.positionalValue g word

/-- The command ends, where `below` is what was read of the command below it. -/
def finish (g : Grammar) (st : State) (below : List Level) : Except Stop (List Level) := do
  let st ← st.settle
  let level : Level := ⟨g.name, st.given⟩
  if g.positionals.all (level.has ·.name) && (g.commands.isEmpty || !below.isEmpty) then
    return level :: below
  else .error .misuse

end State

/-! ## Whole command lines -/

/-- A question for help about a command below. -/
def askHelp (g : Grammar) : List String → Stop
  | [] => .help
  | name :: names =>
    match g.named? name with
    | some g => askHelp g names
    | none => if name == "help" && !g.commands.isEmpty && names.isEmpty then .help else .misuse

/-- Reads the words of a command and gives what it and the commands below it were given. -/
def parseFrom (g : Grammar) (st : State) : List String → Except Stop (List Level)
  | [] => st.finish g []
  | word :: words =>
    if st.taker = .free ∧ st.separated = false ∧ g.commands.isEmpty = false ∧ word = "help" then
      .error (askHelp g words)
    else
      match if st.taker = .free ∧ st.separated = false then g.named? word else none with
      | some sub => do st.finish g (← parseFrom sub .initial words)
      | none => do parseFrom g (← st.read g word) words

def parse (g : Grammar) (words : List String) : Except Stop (List Level) :=
  parseFrom g .initial words

end OutlineNav.CommandLine
