import OutlineNav.Error
import OutlineNav.Outline.Containment
import OutlineNav.Session
import OutlineNav.Table

/-!
# The outline cache

The index keeps the normalized outline and the navigation session of every document in use. Only
non-empty answers of the provider of symbols are kept. Reading an outline has three steps, between
which other operations may happen: looking it up, fetching it, and storing it.

Each stored outline carries a stamp of its own. A handle that was handed out for one outline never
reaches the session of another one, even if both are equal.
-/

namespace OutlineNav

/-- The name under which a document is known. -/
abbrev Document := String

/-- What a provider answers for a document: a failure, nothing yet, or its symbols. -/
abbrev Answer := Except ServiceError (Option (List Symbol))

def Answer.symbols? : Answer → Option (List Symbol)
  | .ok (some (s :: rest)) => some (s :: rest)
  | _ => none

/-- An outline as it was handed out: with its stamp if it was stored. -/
structure Handle where
  stamp? : Option Nat
  outline : Outline
  deriving DecidableEq, Inhabited, Repr

def Handle.absent : Handle := ⟨none, .empty⟩

/-- What is kept for a document. -/
structure Entry where
  stamp : Nat
  outline : Outline
  session : Session
  deriving DecidableEq, Inhabited, Repr

def Entry.handle (e : Entry) : Handle := ⟨some e.stamp, e.outline⟩

structure Index where
  entries : Table Document Entry
  hits : UInt64
  misses : UInt64
  /-- The stamp of the next outline to be stored. -/
  nextStamp : Nat
  deriving Inhabited

namespace Index

def empty : Index := ⟨.empty, 0, 0, 0⟩

/-! ## Outlines -/

def cached (ix : Index) (d : Document) : Option Handle := (ix.entries.get? d).map Entry.handle

/-- Looks a document up and counts whether it was found. -/
def lookup (ix : Index) (d : Document) : Option Handle × Index :=
  match ix.cached d with
  | some h => (some h, { ix with hits := ix.hits + 1 })
  | none => (none, { ix with misses := ix.misses + 1 })

/-- Stores the normalized form of fetched symbols, with an idle session. -/
def store (ix : Index) (d : Document) (symbols : List Symbol) : Handle × Index :=
  let entry : Entry := ⟨ix.nextStamp, Outline.normalize symbols, .idle⟩
  (entry.handle, { ix with entries := ix.entries.insert d entry, nextStamp := ix.nextStamp + 1 })

/-- Receives the answer to a fetch: symbols are stored, anything else leaves the document without
an outline. -/
def receive (ix : Index) (d : Document) (answer : Answer) : Handle × Index :=
  match answer.symbols? with
  | some symbols => ix.store d symbols
  | none => (.absent, ix)

/-- The outline of a document, fetched if it is not kept. -/
def getOutline (ix : Index) (d : Document) (fetch : Document → Answer) : Handle × Index :=
  match ix.lookup d with
  | (some h, ix) => (h, ix)
  | (none, ix) => ix.receive d (fetch d)

/-! ## Sessions -/

/-- Applies `f` to the session of a document. -/
def updateSession (ix : Index) (d : Document) (session : Session) : Index :=
  { ix with entries := ix.entries.modify d fun e => { e with session } }

/-- Runs `f` on the session of a document if `handle` is the outline kept for it now. -/
def withSession {α : Type} (ix : Index) (d : Document) (handle : Handle)
    (f : Session → α × Session) : Option α × Index :=
  match ix.entries.get? d with
  | some e =>
    if handle.stamp? = some e.stamp then
      let (a, session) := f e.session
      (some a, ix.updateSession d session)
    else (none, ix)
  | none => (none, ix)

/-- Runs `f` on the session of a document, whichever outline is kept for it. -/
def withCurrentSession {α : Type} (ix : Index) (d : Document) (f : Session → α × Session) :
    Option α × Index :=
  match ix.entries.get? d with
  | some e =>
    let (a, session) := f e.session
    (some a, ix.updateSession d session)
  | none => (none, ix)

def session? (ix : Index) (d : Document) : Option Session := (ix.entries.get? d).map (·.session)

/-! ## Eviction -/

/-- Drops what is kept for a document and tells whether there was anything. -/
def invalidate (ix : Index) (d : Document) : Bool × Index :=
  (ix.entries.contains d, { ix with entries := ix.entries.erase d })

def clear (ix : Index) : Index := { ix with entries := .empty }

/-! ## Counters -/

structure Stats where
  entries : Nat
  hits : UInt64
  misses : UInt64
  deriving DecidableEq, Repr

def stats (ix : Index) : Stats := ⟨ix.entries.size, ix.hits, ix.misses⟩

end Index

end OutlineNav
