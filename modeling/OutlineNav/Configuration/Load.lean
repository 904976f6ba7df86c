import OutlineNav.Configuration.Printer
import OutlineNav.Document.Files
import OutlineNav.Text.Unsigned
import OutlineNav.Toml.Parser

/-!
# Loading the configuration

The settings of a user lie in a global file, those of a project in a file of the project, which is
laid over the global one key by key. Variables of the environment override both. `Config.ofTables`
gives the configuration that two files write, `Config.override` the one after the environment.
-/

namespace OutlineNav

/-- The variables of the environment that have a value. -/
abbrev Environment := String → Option String

namespace Config

/-! ## From tables -/

abbrev Reader (α : Type) := Toml → Except ConfigError α

section Readers

variable {α : Type}

def wrongForm (expected : String) : Except ConfigError α := .error (.form s!"expected {expected}")

/-- The value of a key, or a default if the key is not there. -/
def setting (key : String) (read : Reader α) (default : α) (table : Toml.Entries) :
    Except ConfigError α :=
  match Named.lookup? key table with
  | some v => read v
  | none => .ok default

/-- A table, which may also be given as the array of its values, in the order of `keys`. -/
def readSection (keys : List String) (read : Toml.Entries → Except ConfigError α) : Reader α
  | .table entries => read entries
  | .array items =>
    if items.length ≤ keys.length then read (keys.zip items) else wrongForm "fewer elements"
  | _ => wrongForm "a table"

def readString : Reader String
  | .string s => .ok s
  | .dateTime t => .ok t.text
  | _ => wrongForm "a string"

def readBool : Reader Bool
  | .boolean b => .ok b
  | _ => wrongForm "a boolean"

/-- An integer from zero up to, but not including, `limit`. -/
def readNat (limit : Nat) : Reader Nat
  | .integer n => if 0 ≤ n ∧ n < limit then .ok n.toNat else wrongForm "a smaller number"
  | _ => wrongForm "a number"

end Readers

def readCommand (table : Table Language String) (entry : String × Toml) :
    Except ConfigError (Table Language String) :=
  match Language.ofName? entry.1 with
  | some language => return table.insert language (← readString entry.2)
  | none => wrongForm "a language"

def readCommands : Reader (Table Language String)
  | .table entries => entries.foldlM readCommand .empty
  | _ => wrongForm "a table"

def readServers (table : Toml.Entries) : Except ConfigError ServerSettings := do
  let initial := ServerSettings.initial
  let seconds ← setting "timeout_secs" (readNat UInt64.size) initial.timeoutSecs.toNat table
  let size ← setting "max_file_size_mb" (readNat UInt32.size) initial.maxFileSizeMb.toNat table
  let commands ← setting "servers" readCommands initial.commands table
  return ⟨.ofNat seconds, .ofNat size, commands⟩

def ofTable (table : Toml.Entries) : Except ConfigError Config := do
  let servers ← setting "lsp"
    (readSection ["timeout_secs", "max_file_size_mb", "servers"] readServers) initial.servers table
  let fallbackToCurrent ← setting "navigation"
    (readSection ["fallback_to_current"]
      (setting "fallback_to_current" readBool initial.fallbackToCurrent))
    initial.fallbackToCurrent table
  let format ← setting "output"
    (readSection ["format"] (setting "format" readString initial.format)) initial.format table
  return ⟨servers, fallbackToCurrent, format⟩

/-- The configuration that a global and a project table write, either of which may be absent. -/
def ofTables (global project : Option Toml.Entries) : Except ConfigError Config :=
  ofTable (([global, project].filterMap id).foldl Toml.merge [])

/-! ## The environment -/

def formatVariable : String := "SYMNAV_OUTPUT_FORMAT"

def timeoutVariable : String := "SYMNAV_LSP_TIMEOUT"

def fallbackVariable : String := "SYMNAV_FALLBACK_TO_CURRENT"

/-- The variable that names the folder of a user's configuration files. -/
def folderVariable : String := "XDG_CONFIG_HOME"

def variableNames : List String :=
  [formatVariable, timeoutVariable, fallbackVariable, folderVariable]

def lowerAscii (c : Char) : Char := if 'A' ≤ c ∧ c ≤ 'Z' then Char.ofNat (c.toNat + 32) else c

/-- The truth value that a user names. -/
def parseBool? (s : String) : Option Bool :=
  match String.ofList ((Text.trim s).toList.map lowerAscii) with
  | "1" | "true" | "yes" | "on" => some true
  | "0" | "false" | "no" | "off" => some false
  | _ => none

/-- A setting under a variable: the value of the variable if there is one. -/
def overrideBy {α : Type} (env : Environment) (name expected : String)
    (parse? : String → Option α) (current : α) : Except ConfigError α :=
  match env name with
  | none => .ok current
  | some s =>
    match parse? s with
    | some a => .ok a
    | none => .error (.invalidValue name s!"expected {expected}, got '{s}'")

/-- The configuration under an environment. -/
def override (env : Environment) (c : Config) : Except ConfigError Config := do
  let format ← overrideBy env formatVariable "a format" some c.format
  let timeoutSecs ← overrideBy env timeoutVariable "seconds"
    (fun s => (Text.unsigned64 s.toList).toOption) c.servers.timeoutSecs
  let fallbackToCurrent ← overrideBy env fallbackVariable "true/false" parseBool?
    c.fallbackToCurrent
  return ⟨{ c.servers with timeoutSecs }, fallbackToCurrent, format⟩

/-! ## Files -/

inductive Level where
  | user
  | project
  deriving DecidableEq, Repr

def Level.name : Level → String
  | .user => "global"
  | .project => "project"

structure Folders where
  user : String
  project : String

namespace Folders

/-- The folders for a user with the given environment and home folder, in a project at `root`. -/
def ofEnvironment (env : Environment) (home? : Option String) (root : String) : Folders :=
  let base := (env folderVariable).getD ((home?.map (FilePath.joinText · ".config")).getD ".")
  ⟨FilePath.joinText base "symnav", FilePath.joinText root ".symnav"⟩

def folder (f : Folders) : Level → String
  | .user => f.user
  | .project => f.project

def path (f : Folders) (level : Level) : String := FilePath.joinText (f.folder level) "config.toml"

end Folders

variable {m : Type → Type} [Monad m]

/-- The table that a file writes, if there is a file. -/
def loadTable (files : Files m) (path : String) : m (Except ConfigError (Option Toml.Entries)) := do
  if ← files.present path then
    match ← files.readText path with
    | .error e => return .error (.file e)
    | .ok text =>
      match Toml.parse? text.toList with
      | some table => return .ok (some table)
      | none => return .error (.grammar path)
  else return .ok none

def load (files : Files m) (env : Environment) (folders : Folders) :
    m (Except ConfigError Config) := do
  match ← loadTable files (folders.path .user) with
  | .error e => return .error e
  | .ok global =>
    match ← loadTable files (folders.path .project) with
    | .error e => return .error e
    | .ok project => return (ofTables global project).bind (override env)

/-- Writes the initial configuration to a file, which is replaced only if `force` is set. -/
def writeInitial (files : Files m) (folders : Folders) (level : Level) (force : Bool) :
    m (Except ConfigError String) := do
  let path := folders.path level
  if !force && (← files.present path) then
    return .error (.invalidValue "config"
      s!"Config already exists: {path}. Use --force to overwrite.")
  match ← files.createFolders (folders.folder level) with
  | .error e => return .error (.file e)
  | .ok () =>
    match ← files.writeText path initial.text with
    | .error e => return .error (.file e)
    | .ok () => return .ok path

end Config

end OutlineNav
