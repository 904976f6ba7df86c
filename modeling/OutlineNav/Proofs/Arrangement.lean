import OutlineNav.Proofs.Addresses

/-!
# Arrangements of an outline

An arrangement says which of its children each symbol keeps, and in which order, as lists of child
indices by address; the empty address stands for the roots. `Outline.arrange` carries it out at
every depth. Pieces cut out of an outline, the outline after some of them were put back, and the
outline itself are all arrangements of the one outline, so what a step does to a tree is said by
what it does to lists of numbers.
-/

namespace OutlineNav

/-- Which children the symbol at an address keeps, by their indices. -/
abbrev Arrangement := SymbolPath → List Nat

/-- The members of a list at some indices. -/
def pick {α : Type} (indices : List Nat) (l : List α) : List α := indices.filterMap (l[·]?)

theorem pick_range {α : Type} (l : List α) : pick (List.range l.length) l = l := by
  induction l with
  | nil => rfl
  | cons a rest ih =>
      have htail :
          (List.map Nat.succ (List.range rest.length)).filterMap ((a :: rest)[·]?) = rest := by
        rw [List.filterMap_map]
        exact ih
      rw [List.length_cons, List.range_succ_eq_map, pick, List.filterMap_cons, htail]
      rfl

mutual

/-- The symbol at `path` with its contents arranged. -/
def arrangeAt (kids : Arrangement) (path : SymbolPath) : Symbol → Symbol
  | ⟨name, detail, kind, range, selectionRange, children⟩ =>
    ⟨name, detail, kind, range, selectionRange, pick (kids path) (arrangeEach kids path 0 children)⟩

/-- All siblings `index`, `index + 1`, … of the symbol at `parent`, each with its contents
arranged. -/
def arrangeEach (kids : Arrangement) (parent : SymbolPath) (index : Nat) : List Symbol → List Symbol
  | [] => []
  | s :: rest => arrangeAt kids (parent ++ [index]) s :: arrangeEach kids parent (index + 1) rest

end

/-- The siblings below `path` that are kept, in their new order. -/
def arrangeLevel (kids : Arrangement) (path : SymbolPath) (symbols : List Symbol) : List Symbol :=
  pick (kids path) (arrangeEach kids path 0 symbols)

def Outline.arrange (o : Outline) (kids : Arrangement) : Outline := ⟨arrangeLevel kids [] o.roots⟩

theorem arrangeAt_eq (kids : Arrangement) (path : SymbolPath) (s : Symbol) :
    arrangeAt kids path s = { s with children := arrangeLevel kids path s.children } := by
  cases s; rfl

theorem getElem?_arrangeEach (kids : Arrangement) (path : SymbolPath) (symbols : List Symbol) :
    ∀ (index i : Nat), (arrangeEach kids path index symbols)[i]? =
      symbols[i]?.map (arrangeAt kids (path ++ [index + i])) := by
  induction symbols with
  | nil => intro index i; rfl
  | cons s rest ih =>
      intro index i
      cases i with
      | zero => rfl
      | succ i =>
          rw [arrangeEach, List.getElem?_cons_succ, List.getElem?_cons_succ, ih,
            show index + 1 + i = index + (i + 1) by omega]

theorem arrangeLevel_eq (kids : Arrangement) (path : SymbolPath) (symbols : List Symbol) :
    arrangeLevel kids path symbols =
      (kids path).filterMap fun i => symbols[i]?.map (arrangeAt kids (path ++ [i])) := by
  simp only [arrangeLevel, pick, getElem?_arrangeEach, Nat.zero_add]

/-! ## Comparing arrangements -/

theorem arrangeEach_congr {kids kids' : Arrangement} (symbols : List Symbol) :
    ∀ (parent : SymbolPath) (index : Nat),
      (∀ i path, parent ++ [index + i] <+: path → kids path = kids' path) →
      arrangeEach kids parent index symbols = arrangeEach kids' parent index symbols := by
  induction symbols using Symbol.forest_induction with
  | nil => intro _ _ _; rfl
  | cons s rest ihChildren ihRest =>
      intro parent index h
      have below : ∀ path, parent ++ [index] <+: path → kids path = kids' path := h 0
      have hat : arrangeAt kids (parent ++ [index]) s = arrangeAt kids' (parent ++ [index]) s := by
        rw [arrangeAt_eq, arrangeAt_eq, arrangeLevel, arrangeLevel, below _ (List.prefix_refl _),
          ihChildren _ _ fun i path hpath => below path ((List.prefix_append ..).trans hpath)]
      have hrest := ihRest parent (index + 1) fun i path hpath => h (i + 1) path (by
        rwa [show index + (i + 1) = index + 1 + i by omega])
      rw [arrangeEach, arrangeEach, hat, hrest]

/-- Only the arrangement at and below a symbol matters to it. -/
theorem arrangeAt_congr {kids kids' : Arrangement} {path : SymbolPath}
    (h : ∀ longer, path <+: longer → kids longer = kids' longer) (s : Symbol) :
    arrangeAt kids path s = arrangeAt kids' path s := by
  rw [arrangeAt_eq, arrangeAt_eq, arrangeLevel, arrangeLevel, h path (List.prefix_refl _),
    arrangeEach_congr _ _ _ fun i longer hlonger =>
      h longer ((List.prefix_append ..).trans hlonger)]

/-- Keeping nothing inside a symbol. -/
theorem arrangeAt_of_nil {kids : Arrangement} {path : SymbolPath} (h : kids path = [])
    (s : Symbol) : arrangeAt kids path s = s.detached := by
  rw [arrangeAt_eq, arrangeLevel, h]
  rfl

theorem arrangeEach_of_range {o : Outline} {kids : Arrangement}
    (hkids : ∀ path s, o.get? path = some s → kids path = List.range s.children.length)
    (symbols : List Symbol) :
    ∀ (parent : SymbolPath) (index : Nat),
      (∀ i s, symbols[i]? = some s → o.get? (parent ++ [index + i]) = some s) →
      arrangeEach kids parent index symbols = symbols := by
  induction symbols using Symbol.forest_induction with
  | nil => intro _ _ _; rfl
  | cons s rest ihChildren ihRest =>
      intro parent index h
      have hs : o.get? (parent ++ [index]) = some s := h 0 s rfl
      have hchildren : arrangeEach kids (parent ++ [index]) 0 s.children = s.children := by
        refine ihChildren _ _ fun i t ht => ?_
        rw [Outline.get?_concat, Outline.childrenAt_of_get? hs, Nat.zero_add, ht]
      have hrest : arrangeEach kids parent (index + 1) rest = rest := by
        refine ihRest _ _ fun i t ht => ?_
        rw [show index + 1 + i = index + (i + 1) by omega]
        exact h (i + 1) t ht
      rw [arrangeEach, arrangeAt_eq, arrangeLevel, hkids _ s hs, hchildren, pick_range, hrest]
      cases s
      rfl

/-- Keeping all children in their order changes nothing. -/
theorem Outline.arrange_of_range {o : Outline} {kids : Arrangement}
    (hroots : kids [] = List.range o.roots.length)
    (hkids : ∀ path s, o.get? path = some s → kids path = List.range s.children.length) :
    o.arrange kids = o := by
  have heach : arrangeEach kids [] 0 o.roots = o.roots := by
    refine arrangeEach_of_range hkids _ _ _ fun i s hs => ?_
    rw [Outline.get?_concat, Nat.zero_add]
    exact hs
  rw [Outline.arrange, arrangeLevel, hroots, heach, pick_range]

end OutlineNav
