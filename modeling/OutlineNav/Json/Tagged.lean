import OutlineNav.Json.Decode
import OutlineNav.Json.Parser

/-!
# Tagged records

A tagged record is an object with a member, the tag, that names the kind of the record, or an array
whose first item does. The tag is judged while the text is read: an unknown name is reported even if
the text goes wrong behind it. The other members and items are judged when the text of the record is
complete, members in their order. What may follow the record comes last.

Failures of the tag have a place in the text, those of the other members have none.
-/

namespace OutlineNav.Json

/-- What a tagged record holds beside its tag. -/
inductive Content where
  /-- The members of an object in the order of the text. -/
  | members (members : List (String × Json))
  /-- The items of an array behind the tag. -/
  | items (items : List Json)
  deriving Repr

structure Tagged where
  tag : String
  content : Content
  deriving Repr

/-- How tagged records of a type are written. -/
structure TagFormat where
  /-- The type as messages name it. -/
  type : String
  /-- The key of the tag. -/
  key : String
  tags : List String

/-- Why a text is no tagged record. -/
inductive TaggedError where
  | grammar (error : SyntaxError)
  /-- The form is wrong; the place, if there is one, has `unread` bytes behind it. -/
  | form (error : DecodeError) (unread : Option Nat)
  deriving DecidableEq, Repr

def TaggedError.message (text : List Char) : TaggedError → String
  | .grammar e => e.message text
  | .form e none => e.message
  | .form e (some unread) => e.message ++ placeSuffix text unread

namespace TagFormat

/-- A failure of the form right before `rest`. -/
def wrongAt {α : Type} (e : DecodeError) (rest : List Char) : Except TaggedError α :=
  .error (.form e (some (Text.utf8Length rest)))

/-! ## Tags -/

def tagType : String := "variant identifier"

/-- The tag at the beginning of a text. -/
def readTag (f : TagFormat) (s : List Char) : Except TaggedError String :=
  match skipSpace s with
  | '"' :: rest => do
    let name ← (readString [] rest).mapError .grammar
    if f.tags.contains name.value then .ok name.value
    else wrongAt (.unknownVariant name.value f.tags) name.rest
  | '[' :: rest => wrongAt (.invalidType .sequence tagType) ('[' :: rest)
  | '\x7b' :: rest => wrongAt (.invalidType .map tagType) ('\x7b' :: rest)
  | s => do
    let v ← (readValue 1 s).mapError .grammar
    wrongAt (.invalidType v.value.found tagType) v.rest

/-- Judges the tags in the trace of an object, where `tag?` came before. -/
def judgeTags (f : TagFormat) (tag? : Option String) :
    List Member → Except TaggedError (Option String)
  | [] => .ok tag?
  | m :: rest =>
    if m.key = f.key then
      match tag?, colonEnd m.afterKey with
      | some _, _ =>
        let behind := skipSpace m.afterKey
        wrongAt (.duplicateField f.key)
          (if behind.head? = some '\x7d' then behind.drop 1 else behind)
      | none, .error e => .error (.grammar e)
      | none, .ok colon => do judgeTags f (some (← f.readTag colon.rest)) rest
    else judgeTags f tag? rest

/-! ## Records -/

def readObject (f : TagFormat) (s : List Char) : Except TaggedError (Tagged × List Char) := do
  let (trace, result) := readMembers (depthLimit - 1) true s
  let tag? ← f.judgeTags none trace
  let fin ← result.mapError .grammar
  match tag? with
  | none => wrongAt (.missingField f.key) fin.rest
  | some tag =>
    let others := trace.filter (·.key ≠ f.key)
    let members := others.filterMap fun m => m.value?.map fun v => (m.key, v.1)
    return (⟨tag, .members members⟩, fin.rest)

def readArray (f : TagFormat) (s : List Char) : Except TaggedError (Tagged × List Char) :=
  match skipSpace s with
  | [] => .error (.grammar ⟨.unfinishedList, 0⟩)
  | ']' :: rest => wrongAt (.missingField f.key) rest
  | _ => do
    let tag ← f.readTag s
    let items ← (readItems (depthLimit - 1) true s).mapError .grammar
    return (⟨tag, .items (items.value.drop 1)⟩, items.rest)

/-- The tagged record at the beginning of a text, and the text behind it. -/
def read (f : TagFormat) (s : List Char) : Except TaggedError (Tagged × List Char) :=
  match skipSpace s with
  | '\x7b' :: rest => f.readObject rest
  | '[' :: rest => f.readArray rest
  | s => do
    let v ← (readValue depthLimit s).mapError .grammar
    wrongAt (.invalidType v.value.found s!"internally tagged enum {f.type}") v.rest

/-- What a whole text writes, where `decode` judges the record. -/
def parse {α : Type} (f : TagFormat) (decode : Tagged → Except DecodeError α) (text : List Char) :
    Except TaggedError α := do
  let (record, rest) ← f.read text
  let a ← (decode record).mapError fun e => .form e none
  (checkEnd rest).mapError .grammar
  return a

end TagFormat

/-! ## The fields of a record -/

namespace Decoder

/-- Judges the fields among members in their order: no field may occur twice, and each has to have
its form. -/
def judgeFields (form? : String → Option (Json → Except DecodeError Unit)) (seen : List String) :
    List (String × Json) → Except DecodeError Unit
  | [] => .ok ()
  | (key, v) :: rest =>
    match form? key with
    | none => judgeFields form? seen rest
    | some form =>
      if seen.contains key then .error (.duplicateField key)
      else do
        form v
        judgeFields form? (key :: seen) rest

def judge {α : Type} (d : Decoder α) (v : Json) : Except DecodeError Unit := (d v).map fun _ => ()

/-- The kind `kind` of the type `type`, as a message names it. -/
def kindName (type kind : String) (fields : Nat) : String :=
  s!"struct variant {type}::{kind} with {fields} element" ++ if fields = 1 then "" else "s"

/-- At most `count` items may follow a tag. -/
def noMoreItems (count : Nat) (vs : List Json) : Except DecodeError Unit :=
  let elements := if count = 1 then "element" else "elements"
  if vs.length ≤ count then .ok ()
  else .error (.invalidLength vs.length s!"{count} {elements} in sequence")

end Decoder

end OutlineNav.Json
