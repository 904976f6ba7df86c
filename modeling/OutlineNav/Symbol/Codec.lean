import OutlineNav.Symbol.Basic

/-!
# Symbol trees as JSON

A tree of symbols can be given in two forms, which share their members. In the record form, in
which this program writes its own symbols, the kind is a name and empty details and child lists are
left out. In the server form the kind is a number and a detail or child list may also be `null`.
`SymbolForm` holds what differs, `readTree` reads either form, and `Symbol.toJson` and
`Symbol.toServerJson` write them.
-/

namespace OutlineNav

open Json (Decoder DecodeError)
open Json.Decoder

/-- What distinguishes the two forms of a symbol tree. -/
structure SymbolForm where
  /-- The record's name in messages. -/
  name : String
  kind : Decoder SymbolKind
  /-- An absent detail or child list may be given as `null`, and then has to have its place when
  the record is an array. -/
  nullable : Bool

namespace SymbolForm

def record : SymbolForm := ⟨"Symbol", SymbolKind.decode, false⟩

def server : SymbolForm := ⟨"DocumentSymbol", fun v => (u32 v).map SymbolKind.ofCode, true⟩

def detail (form : SymbolForm) : Decoder String := fun v =>
  if form.nullable && v = .null then .ok "" else string v

end SymbolForm

namespace Symbol

/-- Reads the members of a symbol, with its children already read. -/
def ofMembers (form : SymbolForm) (children : Except DecodeError (List Symbol))
    (ms : List (String × Json)) : Except DecodeError Symbol := do
  let children ← children
  let detail ← member? form.detail "detail" ms
  let kind ← member? form.kind "kind" ms
  let name ← member? string "name" ms
  let range ← member? Range.decode "range" ms
  let selectionRange ← member? Range.decode "selectionRange" ms
  return {
    name := ← required "name" name
    detail := detail.getD ""
    kind := ← required "kind" kind
    range := ← required "range" range
    selectionRange := ← required "selectionRange" selectionRange
    children }

/-- Reads the items of a symbol, with its children, if they are there, already read. -/
def ofItems (form : SymbolForm) (children? : Option (Except DecodeError (List Symbol)))
    (vs : List Json) : Except DecodeError Symbol := do
  let name ← item string form.name 6 0 vs
  let detail ← if form.nullable then item form.detail form.name 6 1 vs
    else itemOr "" form.detail 1 vs
  let kind ← item form.kind form.name 6 2 vs
  let range ← item Range.decode form.name 6 3 vs
  let selectionRange ← item Range.decode form.name 6 4 vs
  let children ← match children? with
    | some children => children
    | none =>
      if form.nullable then .error (.invalidLength 5 (recordName form.name 6)) else .ok []
  noMore 6 vs
  return { name, detail, kind, range, selectionRange, children }

mutual

def readTree (form : SymbolForm) : Decoder Symbol
  | .obj ms => ofMembers form (childrenMember form ms) ms
  | .arr vs => ofItems form (childrenItem form 5 vs) vs
  | v => wrongType v s!"struct {form.name}"

def readForest (form : SymbolForm) : List Json → Except DecodeError (List Symbol)
  | [] => .ok []
  | v :: rest => do
    let s ← readTree form v
    return s :: (← readForest form rest)

def readChildren (form : SymbolForm) : Decoder (List Symbol)
  | .arr vs => readForest form vs
  | v => if form.nullable && v = .null then .ok [] else wrongType v "a sequence"

/-- The member that holds the children; an absent one holds none. -/
def childrenMember (form : SymbolForm) : List (String × Json) → Except DecodeError (List Symbol)
  | [] => .ok []
  | (k, v) :: rest => if k = "children" then readChildren form v else childrenMember form rest

/-- The item that holds the children, `index` places ahead. -/
def childrenItem (form : SymbolForm) : (index : Nat) → List Json →
    Option (Except DecodeError (List Symbol))
  | _, [] => none
  | 0, v :: _ => some (readChildren form v)
  | index + 1, _ :: rest => childrenItem form index rest

end

def decode : Decoder Symbol := readTree .record

/-- Reads a list of trees in the given form. -/
def decodeForest (form : SymbolForm) : Decoder (List Symbol)
  | .arr vs => readForest form vs
  | v => wrongType v "a sequence"

/-! ## Writing -/

mutual

/-- The record form. -/
def toJson : Symbol → Json
  | ⟨name, detail, kind, range, selectionRange, children⟩ =>
    .obj (Json.present [
      ("children", if children.isEmpty then none else some (.arr (forestToJson children))),
      ("detail", if detail.isEmpty then none else some (.str detail)),
      ("kind", some (.str kind.name)),
      ("name", some (.str name)),
      ("range", some range.toJson),
      ("selectionRange", some selectionRange.toJson)])

def forestToJson : List Symbol → List Json
  | [] => []
  | s :: rest => toJson s :: forestToJson rest

end

mutual

/-- The server form, with every member. -/
def toServerJson : Symbol → Json
  | ⟨name, detail, kind, range, selectionRange, children⟩ =>
    .obj [
      ("children", .arr (forestToServerJson children)),
      ("detail", .str detail),
      ("kind", .nat kind.code),
      ("name", .str name),
      ("range", range.toJson),
      ("selectionRange", selectionRange.toJson)]

def forestToServerJson : List Symbol → List Json
  | [] => []
  | s :: rest => toServerJson s :: forestToServerJson rest

end

end Symbol

end OutlineNav
