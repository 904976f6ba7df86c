import OutlineNav.Toml.Basic

/-!
# From lines to tables

A configuration file is a list of settings and of headers, each of which starts a table. The keys of
both may be dotted, and then pass through tables on their way. Whether a table can still be opened
or extended depends on how it came to be, so tables are built with that note, which is dropped in
the end.

* A header opens a table once: either a new one, or one that longer headers have passed through.
* A dotted key passes through the tables that dotted keys or headers have passed through, but never
  through a table that a header has opened, and adds to tables of its own making only.
* A header in double brackets starts another element of an array of tables; keys that lead through
  the array lead to its last element.
-/

namespace OutlineNav.Toml

open Named (lookup? insert)

/-- A key with the keys of the tables that it leads through. -/
structure Key where
  path : List String
  name : String
  deriving DecidableEq, Repr

inductive Line where
  | setting (key : Key) (value : Toml)
  | table (key : Key)
  | element (key : Key)

/-- How a table came to be. -/
inductive Origin where
  /-- A header names it. -/
  | opened
  /-- A header leads through it. -/
  | passed
  /-- A dotted key leads through it. -/
  | dotted
  deriving DecidableEq, Repr

inductive Node where
  | leaf (value : Toml)
  | table (origin : Origin) (entries : List (String × Node))
  | elements (tables : List (List (String × Node)))

abbrev Nodes := List (String × Node)

/-! ## Building -/

/-- Applies `f` to the table at the end of `path`, which starts in a table of the given origin.
Tables that are not there yet are made. -/
def Nodes.within (dotted : Bool) (f : Origin → Nodes → Option Nodes) :
    (path : List String) → Origin → Nodes → Option Nodes
  | [], origin, nodes => f origin nodes
  | key :: path, _, nodes =>
    match lookup? key nodes with
    | none => do
      let origin := if dotted then Origin.dotted else .passed
      let inner ← within dotted f path origin []
      return insert key (.table origin inner) nodes
    | some (.table origin inner) =>
      if dotted ∧ origin = .opened then none
      else do
        let inner ← within dotted f path origin inner
        return insert key (.table origin inner) nodes
    | some (.elements tables) =>
      match tables.getLast? with
      | none => none
      | some last => do
        let last ← within dotted f path .opened last
        return insert key (.elements (tables.dropLast ++ [last])) nodes
    | some (.leaf _) => none

/-- Adds a setting to a table. -/
def Nodes.set (key : Key) (value : Toml) (nodes : Nodes) : Option Nodes :=
  let add (origin : Origin) (nodes : Nodes) : Option Nodes :=
    if origin ≠ .dotted ∧ key.path ≠ [] then none
    else
      match lookup? key.name nodes with
      | none => some (insert key.name (.leaf value) nodes)
      | some _ => none
  within true add key.path .opened nodes

/-- Opens the table that a header names. -/
def Nodes.openTable (key : Key) (nodes : Nodes) : Option Nodes :=
  let add (_ : Origin) (nodes : Nodes) : Option Nodes :=
    match lookup? key.name nodes with
    | none => some (insert key.name (.table .opened []) nodes)
    | some (.table .passed inner) => some (insert key.name (.table .opened inner) nodes)
    | some _ => none
  within false add key.path .opened nodes

/-- Starts another element of an array of tables. -/
def Nodes.openElement (key : Key) (nodes : Nodes) : Option Nodes :=
  let add (_ : Origin) (nodes : Nodes) : Option Nodes :=
    match lookup? key.name nodes with
    | none => some (insert key.name (.elements [[]]) nodes)
    | some (.elements tables) => some (insert key.name (.elements (tables ++ [[]])) nodes)
    | some _ => none
  within false add key.path .opened nodes

/-- Adds the lines of a file, of which the current table is at the end of `current`. -/
def Nodes.addLines (current : List String) (nodes : Nodes) : List Line → Option Nodes
  | [] => some nodes
  | .setting key value :: lines => do
    let nodes ← within false (fun _ table => table.set key value) current .opened nodes
    addLines current nodes lines
  | .table key :: lines => do
    let nodes ← nodes.openTable key
    addLines (key.path ++ [key.name]) nodes lines
  | .element key :: lines => do
    let nodes ← nodes.openElement key
    addLines (key.path ++ [key.name]) nodes lines

/-! ## Finished tables -/

mutual

def Node.value : Node → Toml
  | .leaf v => v
  | .table _ entries => .table (Nodes.values entries)
  | .elements tables => .array (Nodes.tables tables)

def Nodes.values : List (String × Node) → Entries
  | [] => []
  | (key, node) :: rest => (key, node.value) :: Nodes.values rest

def Nodes.tables : List (List (String × Node)) → List Toml
  | [] => []
  | entries :: rest => .table (Nodes.values entries) :: Nodes.tables rest

end

/-- The table that the lines of a file write. -/
def ofLines (lines : List Line) : Option Entries :=
  (Nodes.addLines [] [] lines).map Nodes.values

/-- The table that settings in braces write. -/
def ofSettings (settings : List (Key × Toml)) : Option Toml :=
  (settings.foldlM (fun nodes (key, value) => Nodes.set key value nodes) []).map fun nodes =>
    .table (Nodes.values nodes)

end OutlineNav.Toml
