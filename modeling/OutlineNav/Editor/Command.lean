import OutlineNav.Json.Tagged
import OutlineNav.Navigator

/-!
# Commands of an editor

An editor tells on lines of JSON what its user does. A command is a record with the tag `command`.
-/

namespace OutlineNav

open Json (Content DecodeError Decoder TagFormat Tagged)
open Json.Decoder

inductive EditorCommand where
  /-- The user moves between symbols. -/
  | goto (direction : Direction) (select : Bool)
  /-- The selections changed. -/
  | select (positions : List String)
  /-- The user asks for the symbols around the cursor. -/
  | resolve
  /-- The text of the document changed. -/
  | edit
  /-- The document is closed. -/
  | close
  /-- Another document is in front. -/
  | focus (file : String)
  /-- The user asks how much is cached. -/
  | stats
  deriving DecidableEq, Repr

namespace EditorCommand

def format : TagFormat where
  type := "SessionCommand"
  key := "command"
  tags := ["goto", "select", "resolve", "edit", "close", "focus", "stats"]

/-! ## Fields -/

/-- A direction; as the key of an object it may have an empty object beside `null` as its value. -/
def direction : Decoder Direction
  | .obj [(name, .obj [])] => Direction.decode (.obj [(name, .null)])
  | v => Direction.decode v

def path : Decoder String
  | .str s => .ok s
  | v => wrongType v "path string"

/-- The item behind the tag at an index, for a kind with `fields` fields. -/
def itemAt {α : Type} (d : Decoder α) (kind : String) (fields index : Nat) (vs : List Json) :
    Except DecodeError α :=
  match vs[index]? with
  | some v => d v
  | none => .error (.invalidLength index (kindName format.type kind fields))

/-- Judges the only field of a kind. -/
def onlyField {α : Type} (key : String) (d : Decoder α) (members : List (String × Json)) :
    Except DecodeError α := do
  judgeFields (fun k => if k = key then some (judge d) else none) [] members
  required key (← member? d key members)

/-! ## Kinds -/

def gotoOfContent : Content → Except DecodeError EditorCommand
  | .members members => do
    judgeFields (fun
      | "direction" => some (judge direction)
      | "select" => some (judge boolean)
      | _ => none) [] members
    let d ← required "direction" (← member? direction "direction" members)
    return .goto d ((← member? boolean "select" members).getD false)
  | .items vs => do
    let d ← itemAt direction "Goto" 2 0 vs
    let select ← itemOr false boolean 1 vs
    noMoreItems 2 vs
    return .goto d select

def selectOfContent : Content → Except DecodeError EditorCommand
  | .members members => do return .select (← onlyField "positions" (list string) members)
  | .items vs => do
    let positions ← itemAt (list string) "Select" 1 0 vs
    noMoreItems 1 vs
    return .select positions

def focusOfContent : Content → Except DecodeError EditorCommand
  | .members members => do return .focus (← onlyField "file" path members)
  | .items vs => do
    let file ← itemAt path "Focus" 1 0 vs
    noMoreItems 1 vs
    return .focus file

/-- A command without fields; members are ignored. -/
def plainOfContent (c : EditorCommand) : Content → Except DecodeError EditorCommand
  | .members _ => .ok c
  | .items vs => do
    noMoreItems 0 vs
    return c

def ofTagged (r : Tagged) : Except DecodeError EditorCommand :=
  match r.tag with
  | "goto" => gotoOfContent r.content
  | "select" => selectOfContent r.content
  | "resolve" => plainOfContent .resolve r.content
  | "edit" => plainOfContent .edit r.content
  | "close" => plainOfContent .close r.content
  | "focus" => focusOfContent r.content
  | "stats" => plainOfContent .stats r.content
  | tag => .error (.unknownVariant tag format.tags)

def parse (line : List Char) : Except Json.TaggedError EditorCommand := format.parse ofTagged line

end EditorCommand

end OutlineNav
