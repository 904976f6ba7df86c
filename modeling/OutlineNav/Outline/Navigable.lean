import OutlineNav.Outline.Basic
import OutlineNav.Text.Substring

/-!
# Navigation targets

Forward declarations and type aliases repeat the symbols they name, so they are no targets of
navigation; what they contain takes their place among their siblings. `navigable` lists the targets
of one level, `Located.members` those of the next, and `targets` all targets of an outline. `prune`
is the outline in which the excluded symbols have been replaced by their contents.
-/

namespace OutlineNav

/-- May be a target of navigation. -/
def Symbol.isNavigable (s : Symbol) : Bool :=
  !Text.contains s.detail "typedef" &&
    !(s.kind.isDeclarableType && Text.contains s.detail "declaration")

mutual

/-- The targets at or right below the symbol at `path`. -/
def navigableAt (path : SymbolPath) : Symbol → List Located
  | ⟨name, detail, kind, range, selectionRange, children⟩ =>
    let s : Symbol := ⟨name, detail, kind, range, selectionRange, children⟩
    if s.isNavigable then [⟨path, s⟩] else navigableFrom path 0 children

/-- The targets among the siblings `index`, `index + 1`, … of the symbol at `parent`. -/
def navigableFrom (parent : SymbolPath) (index : Nat) : List Symbol → List Located
  | [] => []
  | s :: rest => navigableAt (parent ++ [index]) s ++ navigableFrom parent (index + 1) rest

end

theorem navigableAt_eq (path : SymbolPath) (s : Symbol) :
    navigableAt path s =
      if s.isNavigable then [⟨path, s⟩] else navigableFrom path 0 s.children := by
  cases s; rfl

/-- The targets of a sibling list, whose owner is at `parent`; the roots have the empty path as
owner. -/
def navigable (parent : SymbolPath) (symbols : List Symbol) : List Located :=
  navigableFrom parent 0 symbols

/-- The targets one level below a target. -/
def Located.members (l : Located) : List Located := navigable l.path l.symbol.children

/-- The topmost targets. -/
def Outline.topLevel (o : Outline) : List Located := navigable [] o.roots

/-! ## All targets -/

/-- The number of symbols at and below the members of a level. -/
def levelSize : (level : List Located) → Nat
  | [] => 0
  | l :: rest => l.symbol.subtreeSize + levelSize rest

theorem levelSize_append (a b : List Located) : levelSize (a ++ b) = levelSize a + levelSize b := by
  induction a with
  | nil => simp [levelSize]
  | cons l rest ih => simp [levelSize, ih, Nat.add_assoc]

theorem levelSize_navigableFrom_le (symbols : List Symbol) :
    ∀ (parent : SymbolPath) (index : Nat),
      levelSize (navigableFrom parent index symbols) ≤ Symbol.forestSize symbols := by
  induction symbols using Symbol.forest_induction with
  | nil => intro _ _; simp [navigableFrom, levelSize]
  | cons s rest ihChildren ihRest =>
    intro parent index
    have := ihChildren (parent ++ [index]) 0
    have := ihRest parent (index + 1)
    rw [navigableFrom, navigableAt_eq, levelSize_append, Symbol.forestSize]
    split
    · simp only [levelSize] at *
      omega
    · rw [Symbol.subtreeSize_eq]
      omega

theorem levelSize_members_lt (l : Located) : levelSize l.members < l.symbol.subtreeSize := by
  have := levelSize_navigableFrom_le l.symbol.children l.path 0
  rw [Located.members, navigable, Symbol.subtreeSize_eq]
  omega

theorem levelSize_members_lt_of_mem {l : Located} {level : List Located} (h : l ∈ level) :
    levelSize l.members < levelSize level := by
  induction level with
  | nil => simp at h
  | cons m rest ih =>
    rw [levelSize]
    have := levelSize_members_lt l
    rcases List.mem_cons.mp h with rfl | h
    · omega
    · have := ih h
      omega

/-- The members of a level and, behind each, the targets below it. -/
def unfold : List Located → List Located
  | [] => []
  | l :: rest => l :: (unfold l.members ++ unfold rest)
termination_by level => levelSize level
decreasing_by
  · exact levelSize_members_lt_of_mem (List.mem_cons_self ..)
  · have := levelSize_members_lt l
    rw [levelSize]
    omega

/-- Every target of the outline in pre-order. -/
def Outline.targets (o : Outline) : List Located := unfold o.topLevel

/-! ## Pruning -/

mutual

/-- The symbol with its contents pruned, or the pruned contents alone. -/
def pruneTree : Symbol → List Symbol
  | ⟨name, detail, kind, range, selectionRange, children⟩ =>
    let s : Symbol := ⟨name, detail, kind, range, selectionRange, pruneForest children⟩
    if s.isNavigable then [s] else s.children

/-- Replaces each excluded symbol by its own pruned children. -/
def pruneForest : List Symbol → List Symbol
  | [] => []
  | s :: rest => pruneTree s ++ pruneForest rest

end

def Outline.prune (o : Outline) : Outline := ⟨pruneForest o.roots⟩

end OutlineNav
