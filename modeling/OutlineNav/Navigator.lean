import OutlineNav.Index
import OutlineNav.Nearest

/-!
# Moving between symbols

A move sends every selection of a document to the previous or next sibling, the parent or the child
of the symbol it is at. `plan` says what one move does to the selections and to the session of the
document; `Navigator` runs moves and the events of an editor over the outline cache.

A move to the child goes back to the symbols staged by the last move to the parent; a move between
siblings forgets them. Where a direction leads nowhere, a selection goes to the start of its current
symbol if the policy says so, and otherwise stays.
-/

namespace OutlineNav

/-! ## Directions -/

inductive Direction where
  | previous
  | next
  | parent
  | child
  deriving DecidableEq, Inhabited, Repr

namespace Direction

def name : Direction → String
  | .previous => "previous"
  | .next => "next"
  | .parent => "parent"
  | .child => "child"

def ofName? : String → Option Direction
  | "prev" | "previous" => some .previous
  | "next" => some .next
  | "parent" => some .parent
  | "child" => some .child
  | _ => none

def parse? (s : String) : Option Direction :=
  match Text.lowerCase s with
  | "prev" | "previous" => some .previous
  | "next" => some .next
  | "parent" | "up" => some .parent
  | "child" | "down" => some .child
  | _ => none

def unknownMessage (s : String) : String :=
  s!"Unknown direction '{s}'. Expected prev, next, parent or child"

def decode : Json.Decoder Direction :=
  Json.Decoder.variant ofName? ["prev", "previous", "next", "parent", "child"]

end Direction

/-- What to do where a direction leads nowhere. -/
structure Policy where
  fallbackToCurrent : Bool
  deriving DecidableEq, Inhabited, Repr

/-! ## One move -/

/-- Where a selection was sent: an address and the symbol there, without its children. -/
structure Target where
  path : SymbolPath
  symbol : Symbol
  deriving DecidableEq, Inhabited, Repr

def Located.target (l : Located) : Target := ⟨l.path, l.symbol.detached⟩

/-- The outcome of a move: the new selections, the highlighted ranges, for each selection where it
went unless it stayed, and whether any selection changed. -/
structure Outcome where
  selections : List Selection
  highlights : List Range
  targets : List (Option Target)
  moved : Bool
  deriving DecidableEq, Inhabited, Repr

def Outcome.unchanged (selections : List Selection) : Outcome :=
  ⟨selections, [], selections.map fun _ => none, false⟩

/-- The symbol to come back to from the parent, for a cursor that has one. -/
def Nearest.returnChild (n : Nearest) : Option SymbolPath :=
  if n.parent.isSome then (n.current.or (n.next.or n.previous)).map (·.path) else none

/-- Where a direction leads; `staged` is the symbol that the cursor came from. -/
def Nearest.toward (n : Nearest) (staged : Option Located) : Direction → Option Located
  | .previous => n.previous
  | .next => n.next
  | .parent => n.parent
  | .child => staged.or n.child

/-- The symbol that a selection is sent to. -/
def destination (o : Outline) (policy : Policy) (direction : Direction) (staged : Option SymbolPath)
    (selection : Selection) : Option Located :=
  let n := resolve o selection.start
  (n.toward (staged.bind o.locate?) direction).or
    (if policy.fallbackToCurrent then n.current else none)

/-- The selection that is sent to a symbol: a caret at its start, or its range with the caret at the
start. -/
def arrival (select : Bool) (l : Located) : Selection :=
  if select then ⟨l.symbol.range.stop, l.symbol.range.start⟩ else .caret l.symbol.range.start

/-- The frame that a move returns through, and the session without the frames that the move uses up
or forgets. -/
def takeFrame (direction : Direction) (s : Session) : ReturnFrame × Session :=
  match direction with
  | .child => ((s.take.1).getD [], s.take.2)
  | .previous | .next => ([], s.discard)
  | .parent => ([], s)

def stagedFrame (o : Outline) (selections : List Selection) : ReturnFrame :=
  selections.map fun s => (resolve o s.start).returnChild

/-- One move of all selections. -/
def plan (o : Outline) (policy : Policy) (direction : Direction) (select : Bool)
    (selections : List Selection) (s : Session) : Outcome × Session :=
  let (frame, s) := takeFrame direction s
  let destinations := selections.mapIdx fun slot selection =>
    destination o policy direction ((frame[slot]?).join) selection
  let arrivals := (selections.zip destinations).map fun (selection, destination) =>
    (destination.map (arrival select)).getD selection
  let highlights := (destinations.filterMap id).map (·.symbol.range)
  let s := if direction = .parent then s.record (stagedFrame o selections) else s
  ({ selections := arrivals
     highlights
     targets := destinations.map fun l => l.map Located.target
     moved := arrivals != selections },
    { s with lastSelections := some arrivals, highlights })

/-! ## Documents -/

/-- Moves over the outline cache, with a provider of symbols. -/
structure Navigator where
  index : Index
  policy : Policy
  deriving Inhabited

namespace Navigator

def new (policy : Policy) : Navigator := ⟨.empty, policy⟩

def outline (n : Navigator) (fetch : Document → Answer) (d : Document) : Handle × Navigator :=
  let (handle, index) := n.index.getOutline d fetch
  (handle, { n with index })

/-- Plans a move on the session of a document whose outline was handed out before. -/
def moveWith (n : Navigator) (d : Document) (handle : Handle) (selections : List Selection)
    (direction : Direction) (select : Bool) : Outcome × Navigator :=
  if handle.outline.isEmpty then (.unchanged selections, n)
  else
    let (outcome, index) := n.index.withSession d handle
      (plan handle.outline n.policy direction select selections)
    (outcome.getD (.unchanged selections), { n with index })

/-- Moves every selection of a document one step. -/
def navigate (n : Navigator) (fetch : Document → Answer) (d : Document)
    (selections : List Selection) (direction : Direction) (select : Bool) : Outcome × Navigator :=
  let (handle, n) := n.outline fetch d
  n.moveWith d handle selections direction select

def selectionChanged (n : Navigator) (d : Document) (selections : List Selection) :
    HighlightUpdate × Navigator :=
  let (update, index) := n.index.withCurrentSession d (·.selectionChanged selections)
  (update.getD .clear, { n with index })

def documentEdited (n : Navigator) (d : Document) : Navigator :=
  { n with index := (n.index.invalidate d).2 }

/-- A closed document is dropped; its provider is to be told as well. -/
def documentClosed (n : Navigator) (d : Document) : Navigator :=
  { n with index := (n.index.invalidate d).2 }

/-- The focus moved on from a document, if there was one. -/
def activeEditorChanged (n : Navigator) (previous : Option Document) : Navigator :=
  match previous with
  | some d => { n with index := (n.index.invalidate d).2 }
  | none => n

end Navigator

end OutlineNav
