import OutlineNav.Geometry
import OutlineNav.Symbol.Kind

/-!
# Symbols

A symbol is a named range of a document together with the symbols inside it. `range` is its whole
extent, `selectionRange` its name; `detail` is a free annotation of the server.
-/

namespace OutlineNav

structure Symbol where
  name : String
  detail : String
  kind : SymbolKind
  range : Range
  selectionRange : Range
  children : List Symbol
  deriving Inhabited, Repr

namespace Symbol

/-! ## Equality -/

mutual

def decEq : (a b : Symbol) → Decidable (a = b)
  | ⟨n, d, k, r, s, cs⟩, ⟨n', d', k', r', s', cs'⟩ =>
    match decEqList cs cs' with
    | isTrue h =>
      decidable_of_iff (n = n' ∧ d = d' ∧ k = k' ∧ r = r' ∧ s = s') (by simp [h])
    | isFalse h => isFalse (by simp [h])

def decEqList : (a b : List Symbol) → Decidable (a = b)
  | [], [] => isTrue rfl
  | [], _ :: _ => isFalse nofun
  | _ :: _, [] => isFalse nofun
  | a :: as, b :: bs =>
    match decEq a b, decEqList as bs with
    | isTrue h, isTrue h' => isTrue (by rw [h, h'])
    | isFalse h, _ => isFalse (by simp [h])
    | _, isFalse h => isFalse (by simp [h])

end

instance : DecidableEq Symbol := decEq

/-! ## Subtrees -/

def hasChildren (s : Symbol) : Bool := !s.children.isEmpty

def detached (s : Symbol) : Symbol := { s with children := [] }

/-- To prove something of every forest, prove it of the forest whose first tree has a forest of
children with the property, and whose other trees have it too. -/
theorem forest_induction {P : List Symbol → Prop} (nil : P [])
    (cons : ∀ s rest, P s.children → P rest → P (s :: rest)) : ∀ forest, P forest
  | [] => nil
  | ⟨name, detail, kind, range, selectionRange, children⟩ :: rest =>
    cons ⟨name, detail, kind, range, selectionRange, children⟩ rest
      (forest_induction nil cons children) (forest_induction nil cons rest)

mutual

def subtreeSize : Symbol → Nat
  | ⟨_, _, _, _, _, children⟩ => 1 + forestSize children

def forestSize : List Symbol → Nat
  | [] => 0
  | s :: rest => subtreeSize s + forestSize rest

end

theorem subtreeSize_eq (s : Symbol) : s.subtreeSize = 1 + forestSize s.children := by
  cases s; rfl

mutual

/-- The symbols of a subtree in pre-order, each without children. -/
def preorder : Symbol → List Symbol
  | ⟨name, detail, kind, range, selectionRange, children⟩ =>
    ⟨name, detail, kind, range, selectionRange, []⟩ :: flatten children

/-- The symbols of a forest in pre-order, each without children. -/
def flatten : List Symbol → List Symbol
  | [] => []
  | s :: rest => preorder s ++ flatten rest

end

theorem preorder_eq (s : Symbol) : s.preorder = s.detached :: flatten s.children := by
  cases s; rfl

end Symbol

end OutlineNav
