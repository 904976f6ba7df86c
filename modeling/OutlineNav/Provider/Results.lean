import OutlineNav.Fold
import OutlineNav.Index

/-!
# Results of symbol and folding requests

A server answers the request for the symbols of a document with a tree of symbols, with a flat list
of symbols and their places, or with `null`; the first entry tells the two lists apart. Flat entries
become symbols without children, whose nesting is left to containment repair: the first line of the
range stands in for the name. Folding ranges arrive with members that are not used here.
-/

namespace OutlineNav

open Json (Decoder DecodeError)
open Json.Decoder

/-! ## Flat symbols -/

/-- A place in a document. Servers may leave out the range. -/
structure PlaceInfo where
  uri : String
  range : Range
  deriving DecidableEq, Repr

def PlaceInfo.decode : Decoder PlaceInfo :=
  record "LspLocation"
    (fun ms => do
      let range ← member? Range.decode "range" ms
      let uri ← member? string "uri" ms
      return ⟨← required "uri" uri, range.getD default⟩)
    (fun vs => do
      let uri ← item string "LspLocation" 2 0 vs
      let range ← itemOr default Range.decode 1 vs
      noMore 2 vs
      return ⟨uri, range⟩)

/-- An entry of a flat list. -/
structure FlatSymbol where
  name : String
  kind : UInt32
  place : PlaceInfo
  containerName : Option String
  deriving DecidableEq, Repr

namespace FlatSymbol

def decode : Decoder FlatSymbol :=
  record "SymbolInformation"
    (fun ms => do
      let containerName ← optional string "containerName" ms
      let kind ← member? u32 "kind" ms
      let place ← member? PlaceInfo.decode "location" ms
      let name ← member? string "name" ms
      return ⟨← required "name" name, ← required "kind" kind, ← required "location" place,
        containerName⟩)
    (fun vs => do
      let name ← item string "SymbolInformation" 4 0 vs
      let kind ← item u32 "SymbolInformation" 4 1 vs
      let place ← item PlaceInfo.decode "SymbolInformation" 4 2 vs
      let containerName ← item (nullable string) "SymbolInformation" 4 3 vs
      noMore 4 vs
      return ⟨name, kind, place, containerName⟩)

/-- The first line of a range, which ends with the range if that is a single line. -/
def header (r : Range) : Range :=
  ⟨r.start, Position.min ⟨r.start.line, Position.maxWord⟩ r.stop⟩

def symbol (f : FlatSymbol) : Symbol where
  name := f.name
  detail := ""
  kind := .ofCode f.kind
  range := f.place.range
  selectionRange := header f.place.range
  children := []

end FlatSymbol

/-! ## Symbol results -/

/-- The first entry has a member that only flat entries have. -/
def isFlat : List Json → Bool
  | first :: _ => (first.get? "location").isSome
  | [] => false

/-- The symbols in a result; `null` means that there are none yet. -/
def decodeSymbols : Json → Answer
  | .null => .ok none
  | .arr vs =>
    if isFlat vs then
      match list FlatSymbol.decode (.arr vs) with
      | .ok flat => .ok (some (flat.map FlatSymbol.symbol))
      | .error e => .error (.protocol s!"Invalid SymbolInformation: {e.message}")
    else
      match Symbol.decodeForest .server (.arr vs) with
      | .ok forest => .ok (some forest)
      | .error e => .error (.protocol s!"Invalid DocumentSymbol: {e.message}")
  | v => .error (.protocol s!"documentSymbol result is not an array: {v.compact}")

/-! ## Folding results -/

/-- A folding range as servers send it. -/
structure WireFold where
  startLine : UInt32
  endLine : UInt32
  startCharacter : Option UInt32
  endCharacter : Option UInt32
  kind : Option String
  deriving DecidableEq, Repr

namespace WireFold

def decode : Decoder WireFold :=
  record "LspFoldingRange"
    (fun ms => do
      let endCharacter ← optional u32 "endCharacter" ms
      let endLine ← member? u32 "endLine" ms
      let kind ← optional string "kind" ms
      let startCharacter ← optional u32 "startCharacter" ms
      let startLine ← member? u32 "startLine" ms
      return ⟨← required "startLine" startLine, ← required "endLine" endLine, startCharacter,
        endCharacter, kind⟩)
    (fun vs => do
      let startLine ← item u32 "LspFoldingRange" 5 0 vs
      let endLine ← item u32 "LspFoldingRange" 5 1 vs
      let startCharacter ← item (nullable u32) "LspFoldingRange" 5 2 vs
      let endCharacter ← item (nullable u32) "LspFoldingRange" 5 3 vs
      let kind ← item (nullable string) "LspFoldingRange" 5 4 vs
      noMore 5 vs
      return ⟨startLine, endLine, startCharacter, endCharacter, kind⟩)

def toJson (f : WireFold) : Json :=
  .obj (Json.present [
    ("endCharacter", f.endCharacter.map .word),
    ("endLine", some (.word f.endLine)),
    ("kind", f.kind.map .str),
    ("startCharacter", f.startCharacter.map .word),
    ("startLine", some (.word f.startLine))])

def foldRange (f : WireFold) : FoldRange := ⟨f.startLine, f.endLine, .ofName f.kind⟩

end WireFold

end OutlineNav
