import OutlineNav.Location
import OutlineNav.Navigator

/-!
# Reports of the commands

What a command tells about a document, as a JSON value and as text for people. Positions are given
with lines and columns counted from one, as the command line reads them.
-/

namespace OutlineNav.Report

/-! ## Parts -/

def positionJson (p : Position) : Json :=
  let shown := LineColumn.ofPosition p
  .obj [("column", .word shown.column), ("line", .word shown.line)]

def rangeJson (r : Range) : Json :=
  .obj [("end", positionJson r.stop), ("start", positionJson r.start)]

def selectionJson (s : Selection) : Json :=
  .obj [("active", positionJson s.active), ("anchor", positionJson s.anchor)]

def positionText (p : Position) : String := (LineColumn.ofPosition p).text

mutual

/-- A symbol with its subtree, and whether navigation stops at it. -/
def symbolJson : Symbol → Json
  | ⟨name, detail, kind, range, selectionRange, children⟩ =>
    let s : Symbol := ⟨name, detail, kind, range, selectionRange, children⟩
    .obj (Json.present [
      ("children", if children.isEmpty then none else some (.arr (symbolsJson children))),
      ("detail", if detail.isEmpty then none else some (.str detail)),
      ("kind", some (.str kind.name)),
      ("name", some (.str name)),
      ("navigable", some (.bool s.isNavigable)),
      ("range", some (rangeJson range)),
      ("selection_range", some (rangeJson selectionRange))])

def symbolsJson : List Symbol → List Json
  | [] => []
  | s :: rest => symbolJson s :: symbolsJson rest

end

mutual

/-- The lines of a symbol and its subtree, `depth` levels deep. -/
def symbolLines (depth : Nat) : Symbol → List String
  | ⟨name, detail, kind, range, selectionRange, children⟩ =>
    let s : Symbol := ⟨name, detail, kind, range, selectionRange, children⟩
    let indent := String.ofList (List.replicate (2 * depth) ' ')
    let first := (LineColumn.ofPosition range.start).line
    let last := (LineColumn.ofPosition range.stop).line
    let marker := if s.isNavigable then "" else " [decl]"
    s!"{indent}{kind.name} {name}  {first}-{last}{marker}" :: symbolsLines (depth + 1) children

def symbolsLines (depth : Nat) : List Symbol → List String
  | [] => []
  | s :: rest => symbolLines depth s ++ symbolsLines depth rest

end

def targetJson (t : Target) : Json :=
  .obj [("kind", .str t.symbol.kind.name), ("name", .str t.symbol.name),
    ("path", t.path.toJson), ("range", rangeJson t.symbol.range)]

def targetText (t : Target) : String :=
  s!"{t.symbol.kind.name} {t.symbol.name} ({positionText t.symbol.range.start})"

/-- A name in a column of nine characters. -/
def padded (name : String) : String :=
  name ++ String.ofList (List.replicate (9 - name.length) ' ')

end Report

/-! ## Reports -/

inductive Report where
  | outline (file : String) (normalized : Bool) (outline : Outline)
  | nearest (file : String) (position : Position) (nearest : Nearest)
  | move (file : String) (direction : Direction) (outcome : Outcome)
  /-- The lines to fold, counted from one. -/
  | folds (file : String) (lines : List UInt32)

namespace Report

def members : Report → List (String × Json)
  | .outline file normalized o =>
    [("count", .nat o.size), ("file", .str file), ("normalized", .bool normalized),
      ("symbols", .arr (symbolsJson o.roots))]
  | .nearest file position n =>
    let part (l : Option Located) : Json := Json.ofOption (targetJson ·.target) l
    [("child", part n.child), ("current", part n.current), ("file", .str file),
      ("next", part n.next), ("parent", part n.parent), ("position", positionJson position),
      ("previous", part n.previous)]
  | .move file direction outcome =>
    [("direction", .str direction.name), ("file", .str file),
      ("highlights", .arr (outcome.highlights.map rangeJson)), ("moved", .bool outcome.moved),
      ("selections", .arr (outcome.selections.map selectionJson)),
      ("targets", .arr (outcome.targets.map (Json.ofOption targetJson)))]
  | .folds file lines => [("file", .str file), ("lines", .arr (lines.map .word))]

def toJson (r : Report) : Json := .obj r.members

/-- How much is cached, and how often it was of use. -/
def statsMembers (stats : Index.Stats) : List (String × Json) :=
  [("cached_documents", .nat stats.entries), ("hits", .nat stats.hits.toNat),
    ("misses", .nat stats.misses.toNat)]

def success (members : List (String × Json)) : Json :=
  .object (("success", .bool true) :: members)

def failure (message : String) : Json :=
  .obj [("error", .str message), ("success", .bool false)]

def text : Report → String
  | .outline file _ o =>
    "\n".intercalate (s!"{file} ({o.size} symbols)" :: symbolsLines 1 o.roots)
  | .nearest file position n =>
    let row (name : String) (l : Option Located) : String :=
      padded name ++ ((l.map (targetText ·.target)).getD "-")
    "\n".intercalate [s!"{file}:{positionText position}", row "parent" n.parent,
      row "current" n.current, row "child" n.child, row "previous" n.previous, row "next" n.next]
  | .move file _ outcome =>
    let line : Selection × Option Target → String
      | (s, some t) => s!"{file}:{positionText s.active} {targetText t}"
      | (s, none) => s!"{file}:{positionText s.active} (unchanged)"
    "\n".intercalate ((outcome.selections.zip outcome.targets).map line)
  | .folds file lines =>
    if lines.isEmpty then s!"{file}: nothing to fold"
    else "\n".intercalate (lines.map fun line => s!"{file}:{line}")

end OutlineNav.Report
