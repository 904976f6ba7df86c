import OutlineNav.Symbol.Codec

/-!
# Outlines

The outline of a document is the forest of its symbols after containment repair. A symbol inside it
is addressed by its path: the index of its root, then the index of each child on the way down.
-/

namespace OutlineNav

/-- Child indices from the roots down; the empty path addresses no symbol. -/
abbrev SymbolPath := List Nat

namespace SymbolPath

def toJson (path : SymbolPath) : Json := .arr (path.map .nat)

/-- The path of the enclosing symbol, absent for a root. -/
def parent? (path : SymbolPath) : Option SymbolPath :=
  if path.length ≤ 1 then none else some path.dropLast

end SymbolPath

/-- A symbol together with its address. -/
structure Located where
  path : SymbolPath
  symbol : Symbol
  deriving DecidableEq, Inhabited, Repr

/-- The symbol below `s` at the end of a path that starts with an index of its children. -/
def Symbol.descendant? (s : Symbol) : SymbolPath → Option Symbol
  | [] => some s
  | i :: rest => s.children[i]?.bind (·.descendant? rest)

structure Outline where
  roots : List Symbol
  deriving DecidableEq, Inhabited, Repr

namespace Outline

def empty : Outline := ⟨[]⟩

def isEmpty (o : Outline) : Bool := o.roots.isEmpty

def size (o : Outline) : Nat := Symbol.forestSize o.roots

def get? (o : Outline) : SymbolPath → Option Symbol
  | [] => none
  | i :: rest => o.roots[i]?.bind (·.descendant? rest)

def locate? (o : Outline) (path : SymbolPath) : Option Located :=
  (o.get? path).map (⟨path, ·⟩)

/-- Every symbol in pre-order, each without children. -/
def flatten (o : Outline) : List Symbol := Symbol.flatten o.roots

end Outline

end OutlineNav
