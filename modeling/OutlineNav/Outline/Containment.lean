import OutlineNav.Outline.Basic

/-!
# Containment repair

Servers report some symbols beside the symbol they lie in. `normalize` moves every root whose range
lies strictly inside the range of another root under its container. Equal ranges never nest, and
ranges that overlap in part stay siblings.

Roots inside more containers are placed later, so that a container that moves itself is in place
before its contents arrive.
-/

namespace OutlineNav.Outline

/-- How many of the roots strictly contain the symbol. -/
def containerCount (roots : List Symbol) (s : Symbol) : Nat :=
  roots.countP (·.range.strictlyContains s.range)

mutual

/-- Puts `s` below a symbol that strictly contains it. -/
def attachBelow (s : Symbol) : Symbol → Symbol
  | ⟨name, detail, kind, range, selectionRange, children⟩ =>
    ⟨name, detail, kind, range, selectionRange, attach s children⟩

/-- Puts `s` at the end of the children of its deepest strict container, where the first of several
siblings that contain it is entered; without a container it goes to the end of the list. -/
def attach (s : Symbol) : List Symbol → List Symbol
  | [] => [s]
  | t :: rest =>
    if t.range.strictlyContains s.range then attachBelow s t :: rest else t :: attach s rest

end

/-- The roots that no other root strictly contains. -/
def stayingRoots (roots : List Symbol) : List Symbol :=
  roots.filter fun s => containerCount roots s == 0

/-- The roots that move, those with fewer containers first. -/
def movingRoots (roots : List Symbol) : List Symbol :=
  (roots.filter fun s => containerCount roots s != 0).mergeSort
    fun a b => containerCount roots a ≤ containerCount roots b

def normalize (roots : List Symbol) : Outline :=
  ⟨(movingRoots roots).foldl (fun siblings s => attach s siblings) (stayingRoots roots)⟩

end OutlineNav.Outline
