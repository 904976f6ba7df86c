import OutlineNav.Client.Connection
import OutlineNav.Client.Slots

/-!
# The pool of clients

One server for each language, started when it is first needed. A server that has died is started
again: before an operation if its process has ended, and once more if the operation fails because
the server is gone.
-/

namespace OutlineNav

open Server (Launch Processes)

abbrev Pool (κ : Type) := Slots (Connection κ)

/-- Operations on a pool that may fail. -/
abbrev Pooled (κ : Type) (m : Type → Type) : Type → Type := ExceptT ServiceError (StateT (Pool κ) m)

namespace Pool

variable {κ : Type} {m : Type → Type} [Monad m]

def empty : Pool κ := Table.empty

/-! ## Single clients -/

def onClient {α : Type} (language : Language) (act : Exchange κ m α) : Pooled κ m α := do
  let some client := (← get).client? language | throw .notConnected
  let (result, client) ← act.run.run client
  modify (·.update language client)
  match result with
  | .ok a => return a
  | .error e => throw e

def launch (p : Processes m κ) (w : Workspace) (language : Language) :
    m (Except ServiceError (Connection κ)) := do
  let some server := Launch.resolve? w.settings language
    | return .error (.unsupportedLanguage language.id)
  if !(← p.installed server.command) then return .error (.serverStart server.missingMessage)
  let start := Connection.start p w server.command server.arguments
  let (result, client) ← start.run.run (.new language)
  return result.map fun () => client

/-- Sees to it that the client of a language is ready and its server runs. -/
def acquire (p : Processes m κ) (w : Workspace) (language : Language) : Pooled κ m Unit := do
  if let some client := (← get).client? language then
    if ← (Connection.isRunning p client : m Bool) then return
    modify fun pool => (pool.clear language).2
  let (mine, claimed) := (← get).claim language
  if !mine then throw .notConnected
  set claimed
  let result ← (launch p w language : m _)
  modify (·.finish language result.toOption)
  match result with
  | .ok _ => pure ()
  | .error e => throw e

def stop (p : Processes m κ) (w : Workspace) (language : Language) : StateT (Pool κ) m Unit := do
  let (client?, pool) := (← get).clear language
  set pool
  if let some client := client? then
    discard ((Connection.stop p w).run.run client : m _)

/-- Runs an operation on the client of a language, and a second time on a new client if the server
is gone. -/
def withClient {α : Type} (p : Processes m κ) (w : Workspace) (language : Language)
    (act : Exchange κ m α) : Pooled κ m α := do
  acquire p w language
  tryCatch (onClient language act) fun e => do
    if !e.needsRestart then throw e
    stop p w language
    acquire p w language
    onClient language act

/-! ## All clients -/

def running (p : Processes m κ) : StateT (Pool κ) m (List Language) := do
  let mut languages := []
  for (language, client) in (← get).clients do
    if ← (Connection.isRunning p client : m Bool) then languages := language :: languages
  return languages

def stopAll (p : Processes m κ) (w : Workspace) : StateT (Pool κ) m Unit := do
  for (language, _) in (← get).clients do
    stop p w language

end Pool

end OutlineNav
