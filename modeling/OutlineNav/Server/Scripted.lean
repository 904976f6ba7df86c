import OutlineNav.Document.FileTree
import OutlineNav.Json.Ascii
import OutlineNav.Json.Parser
import OutlineNav.Rpc.Frame
import OutlineNav.Server.Processes
import OutlineNav.Text.Substring

/-!
# Scripted servers

Language servers in memory that play scripts. The file `script.json` of the folder in which they run
is a list of scripts, one for every start; the last one is played again by all later starts. A
script has a list of turns for a method, one for every message with that method; the last one is
taken again by all later messages. A turn is a list of actions. Requests without turns are answered
by `null`.

A server writes down the messages that it receives, a line each, in the file `log.txt`, and an `x`
for every start in the file `runs.txt`. It has read a message and played the turn as soon as the
message is written, and time passes only while somebody listens in vain.

Some programs have more actions. They close their input and go on running until they are stopped;
nothing can be written to them from then on. Or they vanish: they end a while before their output
does, so that whoever has read to the end of it does not have to wait for them any more.
-/

namespace OutlineNav.Server.Scripted

/-! ## Scripts -/

inductive Action where
  | exit
  /-- Writes a text as it is. -/
  | raw (text : String)
  /-- Writes a text in a frame. -/
  | send (body : String)
  /-- Closes the input. -/
  | deafen
  /-- Ends at once; only later the output ends. -/
  | vanish
  /-- Answers the message with the given members. -/
  | answer (members : List (String × Json))
  deriving Repr

namespace Action

/-- The member of an action that closes the input. -/
def deafMark : String := "deaf"

/-- The member of an action that lets the program vanish. -/
def vanishMark : String := "vanish"

/-- What a program does for an item of a turn, depending on the marks that it knows. -/
def ofJson (skills : List String) (v : Json) : Option Action :=
  let marked (mark : String) : Bool := skills.contains mark && (v.get? mark).isSome
  match v, v.get? "exit", v.get? "raw", v.get? "send" with
  | _, some _, _, _ => some .exit
  | _, none, some (.str text), _ => some (.raw text)
  | _, none, none, some (.str body) => some (.send body)
  | _, none, none, some message => some (.send message.compact)
  | .obj members, none, none, none =>
    if marked deafMark then some .deafen
    else if marked vanishMark then some .vanish
    else some (.answer members)
  | _, _, _, _ => none

/-- The member of an answer that has the number of the request given back as a text. It holds for
the first time that the answer is given. -/
def textMark : String := "strid"

/-- Whether a marked value counts as set. -/
def isSet : Json → Bool
  | .null | .bool false | .int 0 | .str "" | .arr [] | .obj [] => false
  | _ => true

/-- The answer to the request `id`. -/
def reply (id : Json) (isNew : Bool) (members : List (String × Json)) : Json :=
  let marked := isNew && (Named.lookup? textMark members).any isSet
  let id := match id, marked with
    | .str s, true => .str s
    | v, true => .str v.compact
    | v, false => v
  .object ([("jsonrpc", .str "2.0"), ("id", id)] ++ members.filter (·.1 ≠ textMark))

end Action

/-! ## Servers among files -/

structure Actor where
  script : Json
  /-- The marks of actions that not all programs have. -/
  skills : List String
  /-- How often every method has been called. -/
  calls : List (String × Nat)
  /-- The answers that were given: method, turn and place in the turn. -/
  given : List (String × Nat × Nat)
  output : List UInt8
  isRunning : Bool
  /-- The input is closed. -/
  isDeaf : Bool
  /-- The program had ended before its output did. -/
  hasVanished : Bool
  deriving Inhabited

/-- Files, and the servers that were started among them in the order of their numbers. -/
structure World where
  tree : FileTree
  actors : List Actor
  deriving Inhabited

namespace World

/-- Files that are changed by the servers only. -/
def ofTree (tree : FileTree) : World := ⟨tree, []⟩

def actor (w : World) (i : Nat) : Actor := w.actors[i]?.getD default

def update (w : World) (i : Nat) (f : Actor → Actor) : World :=
  { w with actors := w.actors.modify i f }

def finish (w : World) (i : Nat) : World := w.update i fun a => { a with isRunning := false }

def read? (w : World) (root name : String) : Option String :=
  match (w.tree.read root name).toOption.map Text.decodeUtf8 with
  | some (.ok text) => some (String.ofList text)
  | _ => none

/-- Writes a text at the end of a file. -/
def append (w : World) (root name text : String) : World :=
  let bytes := (w.tree.read root name).toOption.getD []
  match w.tree.write root name (bytes ++ Text.encodeUtf8 text.toList) with
  | .ok tree => { w with tree }
  | .error _ => w

def note (w : World) (root line : String) : World := w.append root "log.txt" (line ++ "\n")

/-! ## Starting -/

/-- Starts a server, which runs if its program and its script are there. It knows the marks for
which the program asks. -/
def start (w : World) (root : String) (arguments : List String) : World :=
  let program := arguments.head?.bind (w.read? root)
  let skills := [Action.deafMark, Action.vanishMark].filter fun mark =>
    program.any (Text.contains · s!"\"{mark}\" in a")
  let add (w : World) (script : Json) (isRunning : Bool) : World :=
    { w with actors := w.actors ++ [⟨script, skills, [], [], [], isRunning, false, false⟩] }
  let scripts := (w.read? root "script.json").bind fun text => (Json.parse text.toList).toOption
  match program, scripts with
  | some _, some (.arr scripts) =>
    let runs := ((w.read? root "runs.txt").getD "").length
    let w := w.append root "runs.txt" "x"
    match scripts[min runs (scripts.length - 1)]? with
    | some script => add (w.note root "start") script true
    | none => add w .null false
  | _, _ => add w .null false

/-! ## Receiving -/

def emit (w : World) (i : Nat) (bytes : List UInt8) : World :=
  w.update i fun a => { a with output := a.output ++ bytes }

/-- Plays the action at place `k` of a turn of a method, in answer to a message. -/
def play (w : World) (i : Nat) (message : Json) (method : String) (turn k : Nat) :
    Option Action → World
  | some .exit | none => w.finish i
  | some (.raw text) => w.emit i (Text.encodeUtf8 text.toList)
  | some (.send body) => w.emit i (Rpc.frame (Text.encodeUtf8 body.toList))
  | some .deafen => w.update i fun a => { a with isDeaf := true }
  | some .vanish => w.update i fun a => { a with isRunning := false, hasVanished := true }
  | some (.answer members) =>
    match message.get? "id" with
    | none => w.finish i
    | some id =>
      let isNew := !(w.actor i).given.contains (method, turn, k)
      let body := (Action.reply id isNew members).compact
      let w := w.update i fun a => { a with given := (method, turn, k) :: a.given }
      w.emit i (Rpc.frame (Text.encodeUtf8 body.toList))

/-- Plays a turn until the server ends. -/
def playTurn (w : World) (i : Nat) (message : Json) (method : String) (turn : Nat)
    (actions : List Json) : World :=
  actions.zipIdx.foldl (fun w (action, k) =>
    if (w.actor i).isRunning then
      w.play i message method turn k (Action.ofJson (w.actor i).skills action)
    else w) w

/-- The turns of a message without a script. -/
def defaultTurns (message : Json) (method : String) : Json :=
  if method ≠ "" ∧ (message.get? "id").isSome then .arr [.arr [.obj [("result", .null)]]]
  else .arr [.arr []]

/-- The message as it is written down: the number of a process is replaced by its type. -/
def noted (message : Json) : Json :=
  match message, message.get? "params" with
  | .obj members, some (.obj params) =>
    match Named.lookup? "processId" params with
    | some (.int _) =>
      .obj (Named.insert "params" (.obj (Named.insert "processId" (.str "int") params)) members)
    | _ => message
  | _, _ => message

def receive (w : World) (root : String) (i : Nat) (message : Json) : World :=
  let w := w.note root (noted message).ascii
  let method := match message.get? "method" with
    | some (.str method) => method
    | _ => ""
  if method = "exit" then w.finish i
  else
    let a := w.actor i
    let turns := (a.script.get? method).getD (defaultTurns message method)
    let call := (Named.lookup? method a.calls).getD 0
    let w := w.update i fun a => { a with calls := Named.insert method (call + 1) a.calls }
    match turns with
    | .arr turns =>
      let turn := min call (turns.length - 1)
      match turns[turn]? with
      | some (.arr actions) => w.playTurn i message method turn actions
      | _ => w.finish i
    | _ => w.finish i

/-- A running server receives what was written to it: the frame of one message. -/
def receiveFrame (w : World) (root : String) (i : Nat) (bytes : List UInt8) : World :=
  match Rpc.readHeaders none bytes with
  | (.ok n, rest) =>
    match (Text.decodeUtf8 (rest.take n)).toOption.bind fun text => (Json.parse text).toOption with
    | some message => w.receive root i message
    | none => w.finish i
  | (.error _, _) => w.finish i

end World

/-! ## As processes of a program -/

/-- How long a program takes to end. -/
def endingTime : Duration := ⟨1⟩

/-- Scripted servers that `command` starts with the path of a program as its first argument. -/
def processes (command root : String) : Processes (StateM World) Nat where
  ownNumber := pure 1
  installed name := pure (name == command)
  spawn _ name arguments := do
    if name ≠ command then return .error .notFound
    let w ← get
    set (w.start root arguments)
    return .ok w.actors.length
  write i bytes := do
    let w ← get
    let a := w.actor i
    if a.isRunning && a.isDeaf then return .error .brokenPipe
    if a.isRunning then set (w.receiveFrame root i bytes)
    return .ok ()
  read i patience := do
    let w ← get
    let a := w.actor i
    set (w.update i fun a => { a with output := [] })
    return ⟨a.output, !a.isRunning, if a.isRunning && a.output.isEmpty then patience else ⟨0⟩⟩
  closeInput i := do
    let w ← get
    let a := w.actor i
    if a.isRunning && !a.isDeaf then set ((w.note root "eof").finish i)
  isRunning i := do return ((← get).actor i).isRunning
  stop i := do
    let vanished := ((← get).actor i).hasVanished
    modify (·.finish i)
    return if vanished then ⟨0⟩ else endingTime

/-- Changes of files change the world around them. -/
instance : MonadLift (StateM FileTree) (StateM World) where
  monadLift act := do
    let w ← get
    let (a, tree) := act.run w.tree
    set { w with tree }
    return a

/-- The files that a program shares with the servers that it runs in the folder `base`. -/
def files (base : String) : Files (StateM World) := (FileTree.files base).lift

end OutlineNav.Server.Scripted
