import OutlineNav.CommandLine.Command
import OutlineNav.Configuration.Load
import OutlineNav.Editor.Basic
import OutlineNav.Fold
import OutlineNav.Provider.Recording
import OutlineNav.Provider.Servers

/-!
# The program

What a command does among the files and processes around it. A command prints one result, as JSON or
as text, and ends, or it opens an editor that answers line by line. The failure of a command is
printed as JSON in any case.

Settings that cannot be read do not keep a command from running; an output format that is unknown
does. Commands that show symbols show none where the symbols cannot be had; only raw symbols and
folding ranges have to be there.
-/

namespace OutlineNav.CommandLine

open Server (Processes)

/-! ## Failures -/

inductive Failure where
  | location (error : LocationError)
  | service (error : ServiceError)
  | config (error : ConfigError)
  /-- Two cursors lie in different files. -/
  | differentFiles (file other : String)
  | format (name : String)
  /-- The input cannot be read. -/
  | input (error : FileError)
  deriving DecidableEq, Repr

def Failure.message : Failure → String
  | .location e => e.message
  | .service e => e.message
  | .config e => e.message
  | .differentFiles file other => s!"All cursors must be in the same file: {file} vs {other}"
  | .format name => s!"Failed to initialize: {OutputFormat.unknownMessage name}"
  | .input e => e.message

/-! ## Results -/

/-- What a command about the configuration tells. -/
inductive ConfigReport where
  | created (level : Config.Level) (path : String)
  | settings (config : Config)
  | place (level : Config.Level) (path : String) (isThere : Bool)

namespace ConfigReport

def members : ConfigReport → List (String × Json)
  | .created level path =>
    [("level", .str level.name), ("path", .str path), ("status", .str "created")]
  | .settings config => [("config", config.toJson)]
  | .place level path isThere =>
    [("exists", .bool isThere), ("level", .str level.name), ("path", .str path)]

def text : ConfigReport → String
  | .created level path => s!"Created {level.name} config: {path}"
  | .settings config => config.text
  | .place _ path isThere => path ++ if isThere then "" else " (missing)"

end ConfigReport

/-- What a command has to show. -/
inductive Result where
  | report (report : Report)
  | config (report : ConfigReport)

def Result.print (format : OutputFormat) (r : Result) : String :=
  let (members, text) := match r with
    | .report r => (r.members, r.text)
    | .config r => (r.members, r.text)
  match format with
  | .json => (Report.success members).pretty ++ "\n"
  | .text => text ++ "\n"

/-- How a run of the program ends: with what was printed and the exit code. -/
structure Finish where
  output : String
  code : UInt32
  deriving DecidableEq, Repr

def failureCode : UInt32 := 2

def Finish.failed (e : Failure) : Finish :=
  ⟨(Report.failure e.message).pretty ++ "\n", failureCode⟩

/-! ## Commands -/

/-- What a command runs among. -/
structure Scene (m : Type → Type) extends Editor.Environs m where
  config : Config
  folders : Config.Folders

namespace Scene

variable {m : Type → Type} [Monad m]

/-- Commands, which may fail. -/
abbrev Run (m : Type → Type) := ExceptT Failure m

def navigator (s : Scene m) : Navigator := .new ⟨s.config.fallbackToCurrent⟩

def locate (s : Scene m) (path : String) : Run m String := do
  match ← s.files.locate s.root path with
  | .ok path => return path
  | .error e => throw (.location e)

/-- The place that a location of the command line means. -/
def place (s : Scene m) (text : String) : Run m (String × Position) := do
  match Location.parse text with
  | .ok location => return (← s.locate location.file, location.position)
  | .error e => throw (.location e)

def relative (s : Scene m) (path : String) : String := FilePath.relative s.root path

/-- The normalized outline of a file; it is empty if the symbols cannot be had. -/
def outlineOf (s : Scene m) (file : String) : Run m Outline :=
  ExceptT.lift do return (← s.navigator.outlineBy s.provider file).1

def received {α : Type} : Except ServiceError α → Run m α
  | .ok a => return a
  | .error e => throw (.service e)

def outline (s : Scene m) (file : String) (raw : Bool) : Run m Report := do
  let file ← s.locate file
  let o : Outline ←
    if raw then do
      let symbols ← received (← s.provider.symbols file)
      pure ⟨symbols.getD []⟩
    else s.outlineOf file
  return .outline (s.relative file) (!raw) o

def resolve (s : Scene m) (location : String) : Run m Report := do
  let (file, position) ← s.place location
  let o ← s.outlineOf file
  return .nearest (s.relative file) position (OutlineNav.resolve o position)

def goto (s : Scene m) (direction : Direction) (locations : List String) (select : Bool) :
    Run m Report := do
  let places ← locations.mapM s.place
  let file := (places.head?.map Prod.fst).getD ""
  if let some (other, _) := places.find? (·.1 ≠ file) then throw (.differentFiles file other)
  let selections := places.map fun (_, position) => Selection.caret position
  let (outcome, _) ←
    ExceptT.lift (s.navigator.navigateBy s.provider file selections direction select)
  return .move (s.relative file) direction outcome

def fold (s : Scene m) (file : String) (types strings : Bool) (keptOpen : List String) :
    Run m Report := do
  let file ← s.locate file
  let selections ← keptOpen.mapM fun text =>
    match parseSelection text.toList with
    | .ok selection => (return selection : Run m Selection)
    | .error e => throw (.location e)
  let options : FoldOptions := ⟨types, selections.isEmpty, strings⟩
  let o ← s.outlineOf file
  let ranges ← received (← s.provider.folds file)
  return .folds (s.relative file) ((planFolds o ranges selections options).map (· + 1))

/-- The path of a configuration file as results name it. -/
def configPath (s : Scene m) (level : Config.Level) : String :=
  match level with
  | .user => s.folders.path level
  | .project => s.relative (s.folders.path level)

def configure (s : Scene m) : ConfigCommand → Run m ConfigReport
  | .init level force => do
    match ← ExceptT.lift (Config.writeInitial s.files s.folders level force) with
    | .ok _ => return .created level (s.configPath level)
    | .error e => throw (.config e)
  | .show => return .settings s.config
  | .path level =>
    return .place level (s.configPath level) (← s.files.present (s.folders.path level))

/-- What a command leads to: a result, or an editor. -/
def perform (s : Scene m) : Command → Run m (Result ⊕ Editor)
  | .outline file raw => return .inl (.report (← s.outline file raw))
  | .resolve location => return .inl (.report (← s.resolve location))
  | .goto direction locations select =>
    return .inl (.report (← s.goto direction locations select))
  | .fold file types strings keptOpen =>
    return .inl (.report (← s.fold file types strings keptOpen))
  | .session file => return .inr (Editor.onDocument s.navigator (← s.locate file))
  | .config command => return .inl (.config (← s.configure command))

end Scene

/-! ## The program -/

/-- What the program runs among. -/
structure Surroundings (m : Type → Type) (κ : Type) where
  /-- The folder in which the program was started. -/
  folder : String
  environment : Environment
  /-- The folder of the user, if he has one. -/
  home? : Option String
  files : Files m
  processes : Processes m κ

variable {κ : Type} {m : Type → Type} [Monad m]

/-- The scene for the options of a command line, and the format of results. -/
def Surroundings.scene (w : Surroundings m κ) (options : Options) :
    m (Except Failure (Scene (StateT (Pool κ) m) × OutputFormat)) := do
  let folders := Config.Folders.ofEnvironment w.environment w.home? w.folder
  let config := (← Config.load w.files w.environment folders).toOption.getD .initial
  let files : Files (StateT (Pool κ) m) := w.files.lift
  let provider := match options.recording with
    | some path => Recording.provider files path
    | none => Provider.ofServers w.files w.processes ⟨w.folder, config.servers⟩
  match options.format.or (OutputFormat.parse? config.format) with
  | none => return .error (.format config.format)
  | some format => return .ok (⟨⟨w.folder, files, provider⟩, config, folders⟩, format)

/-- A run of the program: it has ended, or an editor waits for lines. -/
inductive Status (m : Type → Type) (κ : Type) where
  | finished (finish : Finish)
  | editing (scene : Scene (StateT (Pool κ) m)) (editor : Editor) (pool : Pool κ)

/-- Carries out what a command line asks for. -/
def Surroundings.start (w : Surroundings m κ) (invocation : Invocation) : m (Status m κ) := do
  match ← w.scene invocation.options with
  | .error e => return .finished (.failed e)
  | .ok (scene, format) =>
    let (result, pool) ← ((scene.perform invocation.command).run).run Pool.empty
    match result with
    | .ok (.inr editor) => return .editing scene editor pool
    | .ok (.inl result) =>
      discard (scene.provider.shutdown.run pool)
      return .finished ⟨result.print format, 0⟩
    | .error e =>
      discard (scene.provider.shutdown.run pool)
      return .finished (.failed e)

/-! ### Lines of an editor -/

def lineText (answer? : Option Json) : String :=
  (answer?.map fun v => v.compact ++ "\n").getD ""

def editLine (scene : Scene (StateT (Pool κ) m)) (editor : Editor) (pool : Pool κ) (line : String) :
    m (String × Editor × Pool κ) := do
  let ((answer?, editor), pool) ← (editor.answer scene.toEnvirons line).run pool
  return (lineText answer?, editor, pool)

/-- Ends an editor; the input may have ended by a failure. -/
def endEditing (scene : Scene (StateT (Pool κ) m)) (pool : Pool κ) (error? : Option FileError) :
    m Finish := do
  discard (scene.provider.shutdown.run pool)
  return match error? with
    | none => ⟨"", 0⟩
    | some e => .failed (.input e)

/-- A whole run whose input is `lines`, and the failure that ended the input, if there is one. -/
def Surroundings.run (w : Surroundings m κ) (invocation : Invocation) (lines : List String)
    (error? : Option FileError) : m Finish := do
  match ← w.start invocation with
  | .finished finish => return finish
  | .editing scene editor pool =>
    let ((answers, _), pool) ← (editor.answers scene.toEnvirons lines).run pool
    let output := String.join (answers.map fun v => lineText (some v))
    let finish ← endEditing scene pool error?
    return { finish with output := output ++ finish.output }

/-! ### Command lines that are not carried out -/

def usage : String := "Usage: symnav [OPTIONS] <outline|resolve|goto|fold|session|config> ...\n"

/-- The end of a run whose command line asks for nothing to be done. What is wrong with a command
line is no output. -/
def Stop.finish : Stop → Finish
  | .misuse => ⟨"", failureCode⟩
  | .help => ⟨usage, 0⟩
  | .version fullName => ⟨s!"{fullName} {Client.version}\n", 0⟩

end OutlineNav.CommandLine
