import OutlineNav.Decimal.Double
import OutlineNav.Named
import OutlineNav.Toml.DateTime

/-!
# Configuration values

The value type of configuration files. Tables map keys to values and hold each key once. `merge`
lays one table over another: tables under the same key are merged, any other value is replaced.
-/

namespace OutlineNav

inductive Toml where
  | boolean (value : Bool)
  | integer (value : Int)
  | float (value : Double)
  | string (value : String)
  | dateTime (value : Toml.DateTime)
  | array (items : List Toml)
  | table (entries : List (String × Toml))
  deriving Inhabited, Repr

namespace Toml

open Named (lookup? insert)

/-- Integers lie below this number and not below its negative. -/
def integerLimit : Nat := 0x8000000000000000

abbrev Entries := List (String × Toml)

/-! ## Merging -/

mutual

/-- The value of a key that has the value `base?` below and another value on top. -/
def mergeValue (base? : Option Toml) : Toml → Toml
  | .table overlay =>
    match base? with
    | some (.table base) => .table (merge base overlay)
    | _ => .table overlay
  | .boolean b => .boolean b
  | .integer n => .integer n
  | .float x => .float x
  | .string s => .string s
  | .dateTime t => .dateTime t
  | .array vs => .array vs

/-- Lays the table `overlay` over the table `base`. -/
def merge (base : Entries) : (overlay : Entries) → Entries
  | [] => base
  | (key, value) :: overlay => merge (insert key (mergeValue (lookup? key base) value) base) overlay

end

end Toml

end OutlineNav
