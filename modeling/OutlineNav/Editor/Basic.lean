import OutlineNav.Document.Files
import OutlineNav.Editor.Command
import OutlineNav.Provider.Navigation
import OutlineNav.Report

/-!
# Editors

An editor has one document in front and selections in it. Its commands run over a navigator, which
lives as long as the editor does. Every line with a command is answered by a line; blank lines are
not. A command that fails changes nothing.
-/

namespace OutlineNav

structure Editor where
  navigator : Navigator
  document : Document
  selections : List Selection
  deriving Inhabited

namespace Editor

/-- A document in front, with the caret at its beginning. -/
def onDocument (navigator : Navigator) (document : Document) : Editor :=
  ⟨navigator, document, [.caret .origin]⟩

/-- The place that the user looks at. -/
def position (e : Editor) : Position := (e.selections.head?.map (·.start)).getD default

/-! ## Answers -/

def updateMembers (update : HighlightUpdate) : List (String × Json) :=
  match update with
  | .reapply ranges =>
    [("highlights", .str "reapply"), ("ranges", .arr (ranges.map Report.rangeJson))]
  | .clear => [("highlights", .str "clear"), ("ranges", .arr [])]

def eventMembers (event file : String) : List (String × Json) :=
  [("event", .str event), ("file", .str file)]

/-! ## Commands -/

/-- What an editor stands among: the folder of the project, files, and a provider of symbols. -/
structure Environs (m : Type → Type) where
  root : String
  files : Files m
  provider : Provider m

variable {m : Type → Type} [Monad m]

/-- The document in front, as answers name it. -/
def file (env : Environs m) (e : Editor) : String := FilePath.relative env.root e.document

/-- Carries a command out and gives the members of the answer. -/
def perform (env : Environs m) (e : Editor) :
    EditorCommand → m (Except LocationError (List (String × Json)) × Editor)
  | .goto direction select => do
    let (outcome, navigator) ←
      e.navigator.navigateBy env.provider e.document e.selections direction select
    let report := Report.move (e.file env) direction outcome
    return (.ok report.members, { e with navigator, selections := outcome.selections })
  | .select positions =>
    match positions.mapM fun s => parseSelection s.toList with
    | .error problem => return (.error problem, e)
    | .ok selections => do
      let (update, navigator) := e.navigator.selectionChanged e.document selections
      return (.ok (updateMembers update), { e with navigator, selections })
  | .resolve => do
    let (outline, navigator) ← e.navigator.outlineBy env.provider e.document
    let nearest := OutlineNav.resolve outline e.position
    let report := Report.nearest (e.file env) e.position nearest
    return (.ok report.members, { e with navigator })
  | .edit =>
    return (.ok (eventMembers "edited" (e.file env)),
      { e with navigator := e.navigator.documentEdited e.document })
  | .close => do
    env.provider.close e.document
    return (.ok (eventMembers "closed" (e.file env)),
      { e with navigator := e.navigator.documentClosed e.document })
  | .focus path => do
    match ← env.files.locate env.root path with
    | .error problem => return (.error problem, e)
    | .ok next =>
      let e := Editor.onDocument (e.navigator.activeEditorChanged (some e.document)) next
      return (.ok (eventMembers "focused" (e.file env)), e)
  | .stats => return (.ok (Report.statsMembers e.navigator.index.stats), e)

/-! ## Lines -/

def isBlank (line : String) : Bool := (Text.trim line).isEmpty

/-- The answer to a line, unless the line is blank. -/
def answer (env : Environs m) (e : Editor) (line : String) : m (Option Json × Editor) := do
  if isBlank line then return (none, e)
  match EditorCommand.parse line.toList with
  | .error problem =>
    return (some (Report.failure s!"Invalid command: {problem.message line.toList}"), e)
  | .ok command =>
    match ← e.perform env command with
    | (.ok members, e) => return (some (Report.success members), e)
    | (.error problem, e) => return (some (Report.failure problem.message), e)

def answers (env : Environs m) (e : Editor) : List String → m (List Json × Editor)
  | [] => return ([], e)
  | line :: rest => do
    let (answer?, e) ← e.answer env line
    let (later, e) ← e.answers env rest
    return (answer?.toList ++ later, e)

end Editor

end OutlineNav
