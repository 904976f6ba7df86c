import OutlineNav.Client.Basic
import OutlineNav.Client.Handshake
import OutlineNav.Rpc.Arrival
import OutlineNav.Server.Launch
import OutlineNav.Server.Processes

/-!
# Connections

A client together with the process of its server. Whoever waits for an answer listens to the server
and takes in everything that arrives meanwhile; between two requests nobody listens.

A request that is not answered in time is cancelled. Stopping is polite at first: the server is
asked to shut down and told to exit if it agrees in time. Then its input is closed, and at last the
process is ended.
-/

namespace OutlineNav

open Rpc (Message Response)
open Server (Arrival Duration Processes)

/-- What all clients of a program share. -/
structure Workspace where
  /-- The folder of the project. -/
  root : String
  settings : ServerSettings
  deriving Inhabited

/-- How long an answer is waited for. -/
def Workspace.patience (w : Workspace) (language : Language) (method : String) : Duration :=
  Server.timeout w.settings.timeoutSecs language method

structure Connection (κ : Type) where
  client : Client
  process : Option κ
  /-- The bytes of a message that is under way. -/
  unread : List UInt8

/-- Operations on a connection that may fail; what they have done to the connection stays done. -/
abbrev Exchange (κ : Type) (m : Type → Type) : Type → Type :=
  ExceptT ServiceError (StateT (Connection κ) m)

namespace Connection

variable {κ : Type} {m : Type → Type} [Monad m]

def new (language : Language) : Connection κ := ⟨.new language, none, []⟩

def onClient (f : Client → Client) (c : Connection κ) : Connection κ :=
  { c with client := f c.client }

def isRunning (p : Processes m κ) (c : Connection κ) : m Bool :=
  match c.process with
  | some process => p.isRunning process
  | none => return false

/-! ## Sending -/

def send (p : Processes m κ) (message : Message) : Exchange κ m Unit := do
  let some process := (← get).process | throw .notConnected
  match ← p.write process message.wire with
  | .ok () => pure ()
  | .error e => throw (.file e)

def notify (p : Processes m κ) (method : String) (params : Option Json) : Exchange κ m Unit :=
  send p (.notification (.new method params))

/-- Runs an operation whose failure does not matter. -/
def attempt (act : Exchange κ m Unit) : Exchange κ m Unit := tryCatch act fun _ => pure ()

/-! ## Listening -/

def takeIn (p : Processes m κ) (arrival : Arrival) : Exchange κ m Unit := do
  let c ← get
  let (messages, unread) := Rpc.arrived arrival.ended (c.unread ++ arrival.bytes)
  let (replies, client) := c.client.takeAll messages
  set { c with client, unread }
  for reply in replies do
    attempt (send p (.response reply))

/-- Listens until the request is answered or the time is over. Listening takes some time always. -/
def await (p : Processes m κ) (id : UInt64) (patience : Nat) : Exchange κ m (Option Response) := do
  let c ← get
  match c.client.collect id, c.process with
  | (some answer, client), _ =>
    set { c with client }
    return some answer
  | (none, _), some process =>
    if _waiting : c.client.listening ∧ 0 < patience then
      let arrival ← p.read process ⟨patience⟩
      takeIn p arrival
      await p id (patience - max 1 arrival.elapsed.nanoseconds)
    else return none
  | (none, _), none => return none
termination_by patience

/-! ## Requests -/

def issue (p : Processes m κ) (method : String) (params : Option Json) : Exchange κ m UInt64 := do
  let c ← get
  if c.client.terminated then throw (.serverTerminated c.client.language)
  let (id, client) := c.client.issue
  set { c with client }
  tryCatch (send p (.request (.new id method params))) fun e => do
    modify (onClient (·.abandon id))
    throw e
  return id

def timeoutMessage (language : Language) (method : String) : String :=
  s!"{language.id} '{method}' timed out. The language server may be busy or unresponsive"

/-- Gives a request up and tells the server so. -/
def cancel (p : Processes m κ) (id : UInt64) : Exchange κ m Unit := do
  modify (onClient (·.abandon id))
  attempt (notify p "$/cancelRequest" (some (.object [("id", .nat id.toNat)])))

def settle (answer : Response) : Exchange κ m Json := do liftExcept ((← get).client.outcome answer)
where
  liftExcept : Except ServiceError Json → Exchange κ m Json
    | .ok v => return v
    | .error e => throw e

/-- The answer to a request, which is given up when the time is over. -/
def answer (p : Processes m κ) (w : Workspace) (method : String) (id : UInt64) :
    Exchange κ m Json := do
  let language := (← get).client.language
  match ← await p id (w.patience language method).nanoseconds with
  | some answer => settle answer
  | none =>
    cancel p id
    throw (.timeout (timeoutMessage language method))

def request (p : Processes m κ) (w : Workspace) (method : String) (params : Option Json) :
    Exchange κ m Json := do
  answer p w method (← issue p method params)

/-! ## Starting and stopping -/

def greet (p : Processes m κ) (w : Workspace) : Exchange κ m Unit := do
  let params := Client.openingParams (← p.ownNumber) w.root
  match Rpc.Greeting.decode (← request p w "initialize" (some params)) with
  | .error e => throw (.protocol e.message)
  | .ok greeting =>
    modify (onClient fun c => { c with greeting := some greeting })
    notify p "initialized" (some (.object []))

/-- Starts the server, unless it runs already. -/
def start (p : Processes m κ) (w : Workspace) (command : String) (arguments : List String) :
    Exchange κ m Unit := do
  let c ← get
  if ← (isRunning p c : m Bool) then return
  match ← p.spawn w.root command arguments with
  | .error e => throw (.serverStart s!"{command}: {e.message}")
  | .ok process =>
    modify fun c => { c with process := some process }
    greet p w

def shutdownPatience : Duration := ⟨2 * Duration.perSecond⟩

/-- Tells the server to exit if it has agreed to shut down. If it has not answered, the request to
shut down is cancelled, unless its own patience, `own`, is longer than what was waited. -/
def takeLeave (p : Processes m κ) (id : UInt64) (own : Duration) :
    Option Response → Exchange κ m Unit
  | some answer => do
    if (← settle answer) = .null then notify p "exit" none
  | none => do
    if own.nanoseconds ≤ shutdownPatience.nanoseconds then cancel p id

/-- Asks the server to shut down and takes leave. -/
def askToExit (p : Processes m κ) (own : Duration) : Exchange κ m Unit := do
  let id ← issue p "shutdown" none
  takeLeave p id own (← await p id (min own.nanoseconds shutdownPatience.nanoseconds))

/-- Waits until the process has ended, if there is one. Tells how long it took. -/
def endProcess (p : Processes m κ) : Option κ → m Duration
  | none => return ⟨0⟩
  | some process => do
    p.closeInput process
    p.stop process

/-- Stops the server, where a request to shut down has the given patience. Tells how long its
process took to end. -/
def stopWithin (p : Processes m κ) (own : Duration) : Exchange κ m Duration := do
  modify (onClient fun c => { c with stopping := true })
  attempt (askToExit p own)
  let elapsed ← (endProcess p (← get).process : m Duration)
  modify fun c => { c with process := none }
  modify (onClient (·.failPending ServiceError.cancelledCode "Server shutdown"))
  return elapsed

/-- Stops the server; requests in flight fail as cancelled. -/
def stop (p : Processes m κ) (w : Workspace) : Exchange κ m Unit := do
  discard (stopWithin p (w.patience (← get).client.language "shutdown"))

/-! ## Documents -/

/-- Tells the server about a document and remembers what it was told; a text is remembered by its
digest. -/
def tell (digest : String → UInt64) (p : Processes m κ) (event : DocumentEvent) :
    Exchange κ m Unit := do
  let told (written : Bool) (c : Client) : Client :=
    { c with documents := c.documents.afterEvent digest written event }
  tryCatch (send p (.notification event.notification)) fun e => do
    modify (onClient (told false))
    throw e
  modify (onClient (told true))

/-- Makes sure that the server has the text of a document, where texts are told apart by their
digests. -/
def syncBy (digest : String → UInt64) (p : Processes m κ) (uri text : String) :
    Exchange κ m Unit := do
  let client := (← get).client
  match client.documents.event? digest client.language uri text with
  | some event => tell digest p event
  | none => pure ()

/-- Makes sure that the server has the text of a document. -/
def sync (p : Processes m κ) (uri text : String) : Exchange κ m Unit :=
  syncBy Text.digest p uri text

/-- Tells the server that a document is closed, if it is open. -/
def close (p : Processes m κ) (uri : String) : Exchange κ m Unit := do
  match (← get).client.documents.closing? uri with
  | some event => tell Text.digest p event
  | none => pure ()

end Connection

end OutlineNav
