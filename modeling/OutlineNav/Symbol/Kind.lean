import OutlineNav.Json.Decode

/-!
# Symbol kinds

The twenty-six kinds that a language server gives to the symbols of a document, with their names and
their numbers, and the three classes of kinds that decide about navigation and folding. The numbers
start at one; a number that stands for no kind is read as a variable.
-/

namespace OutlineNav

inductive SymbolKind where
  | file
  | module
  | namespace
  | package
  | classType
  | method
  | property
  | field
  | constructor
  | enum
  | interface
  | function
  | variable
  | constant
  | string
  | number
  | boolean
  | array
  | object
  | key
  | null
  | enumMember
  | struct
  | event
  | operator
  | typeParameter
  deriving DecidableEq, Inhabited, Repr

namespace SymbolKind

def all : List SymbolKind :=
  [.file, .module, .namespace, .package, .classType, .method, .property, .field, .constructor,
    .enum, .interface, .function, .variable, .constant, .string, .number, .boolean, .array, .object,
    .key, .null, .enumMember, .struct, .event, .operator, .typeParameter]

def name : SymbolKind → String
  | .file => "file"
  | .module => "module"
  | .namespace => "namespace"
  | .package => "package"
  | .classType => "class"
  | .method => "method"
  | .property => "property"
  | .field => "field"
  | .constructor => "constructor"
  | .enum => "enum"
  | .interface => "interface"
  | .function => "function"
  | .variable => "variable"
  | .constant => "constant"
  | .string => "string"
  | .number => "number"
  | .boolean => "boolean"
  | .array => "array"
  | .object => "object"
  | .key => "key"
  | .null => "null"
  | .enumMember => "enum_member"
  | .struct => "struct"
  | .event => "event"
  | .operator => "operator"
  | .typeParameter => "type_parameter"

def ofName? (name : String) : Option SymbolKind := all.find? (·.name == name)

/-- The number of a kind, counted from one. -/
def code (kind : SymbolKind) : Nat := kind.ctorIdx + 1

def ofCode (n : UInt32) : SymbolKind :=
  if n = 0 then .variable else all.getD (n.toNat - 1) .variable

theorem ofCode_code (kind : SymbolKind) : ofCode kind.code.toUInt32 = kind := by
  cases kind <;> rfl

/-- Kinds whose forward declarations repeat the defining symbol. -/
def isDeclarableType : SymbolKind → Bool
  | .enum | .struct | .classType => true
  | _ => false

/-- Containers of the type kind, which fold only on request. -/
def isTypeDefinition : SymbolKind → Bool
  | .enum | .interface | .object | .struct | .classType => true
  | _ => false

/-- Kinds with a body that is always worth folding. -/
def isCallableBody : SymbolKind → Bool
  | .method | .property | .constructor | .function | .null | .event | .operator => true
  | _ => false

def decode : Json.Decoder SymbolKind := Json.Decoder.variant ofName? (all.map name)

end SymbolKind

end OutlineNav
