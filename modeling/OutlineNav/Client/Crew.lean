import OutlineNav.Client.Callers
import OutlineNav.Client.Pool

/-!
# Callers at work together

Several callers ask servers about documents at the same time. Each takes its turn: it goes on until
something outside takes time, and then it is the turn of the next one. The clients are shared, so
whoever listens for its own answer takes in the answers of the others, too.
-/

namespace OutlineNav

open Server (Duration Processes)

/-- A question about a document, whose text is sent before. -/
structure Question where
  language : Language
  uri : String
  text : String
  method : String

namespace Question

variable {κ : Type} {m : Type → Type} [Monad m]

/-- Sends the text and the question, which gets the number that is returned. -/
def ask (p : Processes m κ) (q : Question) : Exchange κ m UInt64 := do
  Connection.sync p q.uri q.text
  Connection.issue p q.method (some (Client.documentParams q.uri))

end Question

/-- A caller with a question, for clients that are known by their numbers. -/
structure Worker where
  caller : Caller Nat
  question : Question
  /-- The number of the question that was asked. -/
  asked : Option UInt64
  /-- What has come of it. -/
  result : Option (Except ServiceError Json)

namespace Worker

def new (q : Question) : Worker := ⟨.new q.language true, q, none, none⟩

def conclude (worker : Worker) (result : Except ServiceError Json) : Worker :=
  { worker with asked := none, result := some result }

end Worker

structure Crew (κ : Type) where
  slots : Slots Nat
  connections : List (Connection κ)
  workers : List Worker

namespace Crew

variable {κ : Type} {m : Type → Type} [Monad m]

def onConnection {α : Type} (i : Nat) (act : Exchange κ m α) :
    StateT (List (Connection κ)) m (Except ServiceError α) := do
  let some c := (← get)[i]? | return .error .notConnected
  let (result, c) ← (act.run.run c : m _)
  modify (·.set i c)
  return result

/-- What comes about for a worker, and whether that takes time. -/
structure Report where
  news : Caller.News Nat
  takesTime : Bool
  worker : Worker

def gone : Except ServiceError Json → Bool
  | .ok _ => false
  | .error e => e.needsRestart

/-- Does what the stage of a worker is about, on the connections alone. -/
def attend (p : Processes m κ) (w : Workspace) (worker : Worker) :
    StateT (List (Connection κ)) m Report := do
  match worker.caller.stage with
  | .checking i =>
    let some c := (← get)[i]? | return ⟨.running false, false, worker⟩
    return ⟨.running (← (Connection.isRunning p c : m Bool)), false, worker⟩
  | .starting =>
    match ← (Pool.launch p w worker.question.language : m _) with
    | .ok c =>
      let i := (← get).length
      modify (· ++ [c])
      return ⟨.started (some i), true, worker⟩
    | .error e => return ⟨.started none, true, worker.conclude (.error e)⟩
  | .working i =>
    match worker.asked with
    | none =>
      match ← onConnection i (worker.question.ask p) with
      | .ok id => return ⟨.nothing, true, { worker with asked := some id }⟩
      | .error e => return ⟨.worked e.needsRestart, true, worker.conclude (.error e)⟩
    | some id =>
      let result ← onConnection i (Connection.answer p w worker.question.method id)
      return ⟨.worked (gone result), true, worker.conclude result⟩
  | .stopping i =>
    let patience := w.patience worker.question.language "shutdown"
    match ← onConnection i (Connection.stopWithin p patience) with
    | .ok elapsed => return ⟨.stopped, decide (0 < elapsed.nanoseconds), worker⟩
    | .error _ => return ⟨.stopped, false, worker⟩
  | _ => return ⟨.nothing, false, worker⟩

/-- One step of a worker, which may tell that the worker can go on at once. -/
def step (p : Processes m κ) (w : Workspace) (i : Nat) : StateT (Crew κ) m Bool := do
  let crew ← get
  let some worker := crew.workers[i]? | return false
  let (report, connections) ← ((attend p w worker).run crew.connections : m _)
  let (caller, slots) := worker.caller.advance report.news crew.slots
  let workers := crew.workers.set i { report.worker with caller }
  set ({ slots, connections, workers } : Crew κ)
  return !report.takesTime && !caller.stage.pauses

/-- The turn of a worker, of so many steps at most. -/
def turn (p : Processes m κ) (w : Workspace) (i : Nat) : (steps : Nat) → StateT (Crew κ) m Unit
  | 0 => return
  | steps + 1 => do
    if ← step p w i then turn p w i steps

/-- How many steps a turn has at most. -/
def turnLength : Nat := 16

/-- All workers take their turns, again and again. -/
def rounds (p : Processes m κ) (w : Workspace) : Nat → StateT (Crew κ) m Unit
  | 0 => return
  | n + 1 => do
    (List.range (← get).workers.length).forM (turn p w · turnLength)
    rounds p w n

/-! ## Crews of a pool -/

/-- Workers with questions; the clients are numbered in the order of the pool. -/
def ofPool (pool : Pool κ) (questions : List Question) : Crew κ where
  slots := pool.map fun language slot =>
    match slot with
    | .claimed => .claimed
    | .ready _ => .ready ((pool.clients.map (·.1)).idxOf language)
  connections := pool.clients.map (·.2)
  workers := questions.map .new

def pool (crew : Crew κ) : Pool κ :=
  crew.slots.map fun _ slot => (slot.client?.bind (crew.connections[·]?)).elim .claimed .ready

/-- How many rounds a worker needs at most: a try takes four, and as long it may have to wait. -/
def roundsPerWorker : Nat := 16

/-- Asks several questions at the same time. -/
def askAll (p : Processes m κ) (w : Workspace) (questions : List Question) :
    StateT (Pool κ) m (List (Except ServiceError Json)) := do
  let crew := ofPool (← get) questions
  let (_, crew) ← ((rounds p w (roundsPerWorker * questions.length)).run crew : m _)
  set crew.pool
  return crew.workers.map fun worker => worker.result.getD (.error .requestCancelled)

end Crew

end OutlineNav
