import OutlineNav.Client.Documents
import OutlineNav.Client.Pending
import OutlineNav.Error
import OutlineNav.Rpc.Capabilities
import OutlineNav.Rpc.Frame

/-!
# Clients of a language server

The state of a client and what messages from the server do to it. Answers are collected under the
numbers of their requests, requests of the server are answered on the spot, and notifications are
for information only.

Messages are taken one after another until the connection is lost. A client that is stopping takes
the one message that it was waiting for and no further one.
-/

namespace OutlineNav

open Rpc (Message Request Response)

structure Client where
  language : Language
  pending : Pending
  /-- The answers that arrived, by the numbers of their requests. -/
  answers : Table UInt64 Response
  documents : OpenDocuments
  /-- The answer to the opening request. -/
  greeting : Option Rpc.Greeting
  /-- The server is being stopped. -/
  stopping : Bool
  /-- The connection was lost before the server was stopped. -/
  terminated : Bool
  /-- Messages are still taken. -/
  listening : Bool

namespace Client

def new (language : Language) : Client :=
  ⟨language, .initial, .empty, .empty, none, false, false, true⟩

instance : Inhabited Client := ⟨new default⟩

def providesFolding (c : Client) : Bool := c.greeting.any (·.capabilities.providesFolding)

/-! ## Requests of the server -/

def methodNotFound : Int := -32601

/-- Empty settings for every item that a server asks about. -/
def emptySettings (params : Option Json) : Json :=
  match params.bind (·.get? "items") with
  | some (.arr items) => .arr (items.map fun _ => .obj [])
  | _ => .arr []

def reply (r : Request) : Response :=
  match r.method with
  | "workspace/configuration" => .success r.id (emptySettings r.params)
  | "client/registerCapability" | "client/unregisterCapability"
  | "window/workDoneProgress/create" => .success r.id .null
  | method => .failed r.id methodNotFound s!"Method not found: {method}"

/-! ## Requests of the client -/

/-- The number of a new request. -/
def reserve (c : Client) : UInt64 × Client :=
  let (id, pending) := c.pending.reserve
  (id, { c with pending })

def register (c : Client) (id : UInt64) : Client := { c with pending := c.pending.register id }

/-- The number of a new request, which waits from now on. -/
def issue (c : Client) : UInt64 × Client :=
  let (id, c) := c.reserve
  (id, c.register id)

def abandon (c : Client) (id : UInt64) : Client := { c with pending := c.pending.abandon id }

/-! ## Answers -/

def complete (c : Client) (id : UInt64) (r : Response) : Client :=
  { c.abandon id with answers := c.answers.insert id r }

/-- An answer arrived; one that belongs to no waiting request is dropped. -/
def deliver (c : Client) (r : Response) : Client :=
  match r.id.bind c.pending.target? with
  | some id => c.complete id r
  | none => c

def failPending (c : Client) (code : Int) (message : String) : Client :=
  c.pending.waiting.foldl (fun c id => c.complete id (.failed (.number id) code message)) c

/-- The answer to a request, which is taken away. -/
def collect (c : Client) (id : UInt64) : Option Response × Client :=
  (c.answers.get? id, { c with answers := c.answers.erase id })

/-! ## Taking messages -/

def handle (c : Client) : Message → Option Response × Client
  | .request r => (some (reply r), c)
  | .response r => (none, c.deliver r)
  | .notification _ => (none, c)

/-- Takes a message, and no further one if the client is stopping. -/
def take (c : Client) (message : Message) : Option Response × Client :=
  let (reply?, c) := c.handle message
  (reply?, { c with listening := !c.stopping })

def lose (c : Client) : Client :=
  if c.stopping then { c with listening := false }
  else
    let gone := ServiceError.serverTerminated c.language
    { c.failPending gone.code gone.message with terminated := true, listening := false }

/-- Takes what arrives as long as messages are taken, and gives the answers to requests of the
server. -/
def takeAll (c : Client) : List (Except Rpc.FrameError Message) → List Response × Client
  | [] => ([], c)
  | arrival :: rest =>
    if c.listening then
      match arrival with
      | .error _ => ([], c.lose)
      | .ok message =>
        let (reply?, c) := c.take message
        let (replies, c) := c.takeAll rest
        (reply?.toList ++ replies, c)
    else ([], c)

/-! ## Outcomes of requests -/

def outcome (c : Client) (r : Response) : Except ServiceError Json :=
  match r.outcome with
  | .ok v => .ok v
  | .error f =>
    if f.code = (ServiceError.serverTerminated c.language).code then
      .error (.serverTerminated c.language)
    else .error (.serverError f.code f.message)

end Client

end OutlineNav
