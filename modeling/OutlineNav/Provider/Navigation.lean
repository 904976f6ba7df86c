import OutlineNav.Navigator
import OutlineNav.Provider.Basic

/-!
# Navigation with a provider

The outline cache and a navigator ask a provider for the symbols of a document only if no outline of
it is kept.
-/

namespace OutlineNav

variable {m : Type → Type} [Monad m]

/-- The outline of a document, for which the provider is asked if none is kept. -/
def Index.getOutlineBy (p : Provider m) (ix : Index) (d : Document) : m (Handle × Index) :=
  match ix.lookup d with
  | (some handle, ix) => return (handle, ix)
  | (none, ix) => return ix.receive d (← p.symbols d)

namespace Navigator

def outlineBy (p : Provider m) (n : Navigator) (d : Document) : m (Outline × Navigator) := do
  let (handle, index) ← n.index.getOutlineBy p d
  return (handle.outline, { n with index })

/-- Moves every selection of a document one step, by a provider. -/
def navigateBy (p : Provider m) (n : Navigator) (d : Document) (selections : List Selection)
    (direction : Direction) (select : Bool) : m (Outcome × Navigator) := do
  let (handle, index) ← n.index.getOutlineBy p d
  return Navigator.moveWith { n with index } d handle selections direction select

end Navigator

end OutlineNav
