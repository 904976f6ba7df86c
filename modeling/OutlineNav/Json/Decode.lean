import OutlineNav.Json.Printer
import OutlineNav.Text.Quoted

/-!
# Typed reading of JSON values

A `Decoder α` turns a value into an `α` or tells the first thing that is wrong with it. Records are
read from an object or from an array of their fields in declaration order. In an object the fields
present are read in the order of their keys before the first absent field is reported; unknown
members are ignored.
-/

namespace OutlineNav

namespace Json

/-- What a decoder met, as a message names it. -/
inductive Found where
  | null
  | bool (value : Bool)
  | int (value : Int)
  | float (value : Double)
  | str (value : String)
  | sequence
  | map
  deriving DecidableEq, Repr

def Found.describe : Found → String
  | .null => "null"
  | .bool b => s!"boolean `{b}`"
  | .int n => s!"integer `{n}`"
  | .float d => s!"floating point `{floatText d}`"
  | .str s => s!"string {Text.quoted s}"
  | .sequence => "sequence"
  | .map => "map"

def found : Json → Found
  | .null => .null
  | .bool b => .bool b
  | .int n => .int n
  | .float d => .float d
  | .str s => .str s
  | .arr _ => .sequence
  | .obj _ => .map

/-- Why a value does not have the wanted form. -/
inductive DecodeError where
  | invalidType (found : Found) (expected : String)
  | invalidValue (found : Found) (expected : String)
  | invalidLength (length : Nat) (expected : String)
  | missingField (name : String)
  | duplicateField (name : String)
  | unknownVariant (name : String) (known : List String)
  | noAlternative (type : String)
  deriving DecidableEq, Repr

/-- A choice of names: one, one or the other, or one of a list. -/
def choice : List String → String
  | [a] => s!"`{a}`"
  | [a, b] => s!"`{a}` or `{b}`"
  | names => "one of " ++ ", ".intercalate (names.map fun n => s!"`{n}`")

def DecodeError.message : DecodeError → String
  | .invalidType f e => s!"invalid type: {f.describe}, expected {e}"
  | .invalidValue f e => s!"invalid value: {f.describe}, expected {e}"
  | .invalidLength n e => s!"invalid length {n}, expected {e}"
  | .missingField n => s!"missing field `{n}`"
  | .duplicateField n => s!"duplicate field `{n}`"
  | .unknownVariant n known => s!"unknown variant `{n}`, expected {choice known}"
  | .noAlternative t => s!"data did not match any variant of untagged enum {t}"

abbrev Decoder (α : Type) := Json → Except DecodeError α

namespace Decoder

variable {α : Type}

/-! ## Simple values -/

def wrongType (v : Json) (expected : String) : Except DecodeError α :=
  .error (.invalidType v.found expected)

def any : Decoder Json := .ok

def string : Decoder String
  | .str s => .ok s
  | v => wrongType v "a string"

def boolean : Decoder Bool
  | .bool b => .ok b
  | v => wrongType v "a boolean"

/-- An integer from `low` to `high`, called `name` in messages. -/
def integer (name : String) (low high : Int) : Decoder Int
  | .int n => if low ≤ n ∧ n ≤ high then .ok n else .error (.invalidValue (.int n) name)
  | v => wrongType v name

def u32 : Decoder UInt32 := fun v =>
  (integer "u32" 0 (UInt32.size - 1) v).map fun n => n.toNat.toUInt32

def u64 : Decoder UInt64 := fun v =>
  (integer "u64" 0 (UInt64.size - 1) v).map fun n => n.toNat.toUInt64

def i32 : Decoder Int := integer "i32" (-0x80000000) 0x7FFFFFFF

def nullable (d : Decoder α) : Decoder (Option α)
  | .null => .ok none
  | v => (d v).map some

def items (d : Decoder α) : List Json → Except DecodeError (List α)
  | [] => .ok []
  | v :: rest => do
    let a ← d v
    return a :: (← items d rest)

def list (d : Decoder α) : Decoder (List α)
  | .arr vs => items d vs
  | v => wrongType v "a sequence"

/-- One of named alternatives, given by its name or as the only member, with the value `null`, of
an object. -/
def variant (named : String → Option α) (known : List String) : Decoder α :=
  let byName (name : String) : Except DecodeError α :=
    match named name with
    | some a => .ok a
    | none => .error (.unknownVariant name known)
  fun
  | .str name => byName name
  | .obj [(name, content)] => do
    let a ← byName name
    match content with
    | .null => .ok a
    | v => wrongType v "unit"
  | .obj _ => .error (.invalidValue .map "map with a single key")
  | v => wrongType v "string or map"

/-! ## Records -/

/-- The field of an object, if it is there. -/
def member? (d : Decoder α) (key : String) (members : List (String × Json)) :
    Except DecodeError (Option α) :=
  match Named.lookup? key members with
  | some v => (d v).map some
  | none => .ok none

/-- The field of an object that may be absent or `null`. -/
def optional (d : Decoder α) (key : String) (members : List (String × Json)) :
    Except DecodeError (Option α) :=
  (member? (nullable d) key members).map Option.join

/-- A field that has to be there. -/
def required (key : String) : Option α → Except DecodeError α
  | some a => .ok a
  | none => .error (.missingField key)

/-- A record with `fields` fields, as a message names it. -/
def recordName (name : String) (fields : Nat) : String :=
  s!"struct {name} with {fields} element" ++ if fields = 1 then "" else "s"

/-- The field at an index of a record given as an array. -/
def item (d : Decoder α) (name : String) (fields : Nat) (index : Nat) (vs : List Json) :
    Except DecodeError α :=
  match vs[index]? with
  | some v => d v
  | none => .error (.invalidLength index (recordName name fields))

/-- The field at an index of a record given as an array, with a value to stand in for it. -/
def itemOr (default : α) (d : Decoder α) (index : Nat) (vs : List Json) : Except DecodeError α :=
  match vs[index]? with
  | some v => d v
  | none => .ok default

/-- An array has no more items than the record has fields. -/
def noMore (fields : Nat) (vs : List Json) : Except DecodeError Unit :=
  if vs.length ≤ fields then .ok ()
  else .error (.invalidLength vs.length "fewer elements in array")

/-- A record from its two forms. -/
def record (name : String) (ofMembers : List (String × Json) → Except DecodeError α)
    (ofItems : List Json → Except DecodeError α) : Decoder α
  | .obj members => ofMembers members
  | .arr vs => ofItems vs
  | v => wrongType v s!"struct {name}"

end Decoder

end Json

end OutlineNav
