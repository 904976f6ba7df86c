import Mathlib.Data.List.Induction
import OutlineNav.Outline.Basic

/-!
# Addresses

What an address leads to, in terms of the address it extends, and the list of everything that an
outline holds: `Outline.located` pairs each symbol with its address, in pre-order.

Pre-order is the lexicographic order of the addresses (`pairwise_located`), so the listing never
names an address twice and lists siblings by their index.
-/

namespace OutlineNav

/-! ## Extending an address -/

theorem SymbolPath.concat_not_prefix_self (path : SymbolPath) (i : Nat) :
    ¬path ++ [i] <+: path := by
  intro h
  have := h.length_le
  rw [List.length_append, List.length_singleton] at this
  omega

theorem Symbol.descendant?_append (s : Symbol) (path rest : SymbolPath) :
    s.descendant? (path ++ rest) = (s.descendant? path).bind (·.descendant? rest) := by
  induction path generalizing s with
  | nil => rfl
  | cons i path ih =>
      rw [List.cons_append, Symbol.descendant?, Symbol.descendant?]
      cases s.children[i]? with
      | none => rfl
      | some t => exact ih t

namespace Outline

theorem ne_nil_of_get? {o : Outline} {path : SymbolPath} {s : Symbol} (h : o.get? path = some s) :
    path ≠ [] := by
  rintro rfl
  cases h

theorem get?_append {o : Outline} {path : SymbolPath} {s : Symbol} (h : o.get? path = some s)
    (rest : SymbolPath) : o.get? (path ++ rest) = s.descendant? rest := by
  cases path with
  | nil => cases h
  | cons i path =>
      rw [Outline.get?] at h
      rw [List.cons_append, Outline.get?]
      cases hi : o.roots[i]? with
      | none => rw [hi] at h; cases h
      | some root =>
          rw [hi] at h
          rw [Option.bind_some, Symbol.descendant?_append,
            show root.descendant? path = some s from h]
          rfl

/-- The symbols right below an address; below the empty address are the roots. -/
def childrenAt (o : Outline) : SymbolPath → List Symbol
  | [] => o.roots
  | path => ((o.get? path).map (·.children)).getD []

theorem childrenAt_of_get? {o : Outline} {path : SymbolPath} {s : Symbol}
    (h : o.get? path = some s) : o.childrenAt path = s.children := by
  cases path with
  | nil => cases h
  | cons i path => simp only [childrenAt, h, Option.map_some, Option.getD_some]

theorem get?_concat (o : Outline) (path : SymbolPath) (i : Nat) :
    o.get? (path ++ [i]) = (o.childrenAt path)[i]? := by
  cases h : o.get? path with
  | some s =>
      rw [get?_append h, childrenAt_of_get? h]
      exact Option.bind_fun_some _
  | none =>
      cases path with
      | nil => exact Option.bind_fun_some _
      | cons j path =>
          rw [Outline.get?] at h
          simp only [List.cons_append, Outline.get?, childrenAt, h]
          cases hj : o.roots[j]? with
          | none => rfl
          | some root =>
              rw [hj] at h
              rw [Option.bind_some, Symbol.descendant?_append,
                show root.descendant? path = none from h]
              rfl

/-- Everything on the way to a symbol is a symbol. -/
theorem get?_isSome_of_prefix {o : Outline} {path longer : SymbolPath} (hne : path ≠ [])
    (hpre : path <+: longer) (h : (o.get? longer).isSome) : (o.get? path).isSome := by
  obtain ⟨rest, rfl⟩ := hpre
  induction rest using List.reverseRecOn with
  | nil => simpa using h
  | append_singleton rest i ih =>
      apply ih
      rw [← List.append_assoc, get?_concat] at h
      cases hp : o.get? (path ++ rest) with
      | some s => rfl
      | none =>
          cases hl : path ++ rest with
          | nil => exact absurd (List.append_eq_nil_iff.mp hl).1 hne
          | cons j r => rw [hl] at h hp; simp [childrenAt, hp] at h

end Outline

/-! ## Everything in an outline -/

mutual

/-- The symbol at `path` and everything below it, in pre-order. -/
def locatedAt (path : SymbolPath) : Symbol → List Located
  | ⟨name, detail, kind, range, selectionRange, children⟩ =>
    ⟨path, ⟨name, detail, kind, range, selectionRange, children⟩⟩ :: locatedFrom path 0 children

/-- The siblings `index`, `index + 1`, … of the symbol at `parent` and everything below them. -/
def locatedFrom (parent : SymbolPath) (index : Nat) : List Symbol → List Located
  | [] => []
  | s :: rest => locatedAt (parent ++ [index]) s ++ locatedFrom parent (index + 1) rest

end

theorem locatedAt_eq (path : SymbolPath) (s : Symbol) :
    locatedAt path s = ⟨path, s⟩ :: locatedFrom path 0 s.children := by
  cases s; rfl

/-- Every symbol of the outline with its address, in pre-order. -/
def Outline.located (o : Outline) : List Located := locatedFrom [] 0 o.roots

theorem mem_locatedFrom {l : Located} (symbols : List Symbol) :
    ∀ (parent : SymbolPath) (index : Nat), l ∈ locatedFrom parent index symbols ↔
      ∃ i rest, l.path = parent ++ (index + i) :: rest ∧
        Outline.get? ⟨symbols⟩ (i :: rest) = some l.symbol := by
  induction symbols using Symbol.forest_induction with
  | nil => intro parent index; simp [locatedFrom, Outline.get?]
  | cons s rest ihChildren ihRest =>
      intro parent index
      rw [locatedFrom, locatedAt_eq, List.mem_append, List.mem_cons, ihChildren, ihRest]
      constructor
      · rintro ((rfl | ⟨i, path, hpath, hget⟩) | ⟨i, path, hpath, hget⟩)
        · exact ⟨0, [], rfl, rfl⟩
        · exact ⟨0, i :: path, by simp [hpath], hget⟩
        · exact ⟨i + 1, path, by rw [hpath]; congr 2; omega, hget⟩
      · rintro ⟨_ | i, path, hpath, hget⟩
        · cases path with
          | nil =>
              obtain ⟨path, symbol⟩ := l
              obtain rfl : s = symbol := Option.some.inj hget
              exact .inl (.inl (congrArg (Located.mk · s) hpath))
          | cons i path => exact .inl (.inr ⟨i, path, by simp [hpath], hget⟩)
        · exact .inr ⟨i, path, by rw [hpath]; congr 2; omega, hget⟩

theorem Outline.mem_located {o : Outline} {l : Located} :
    l ∈ o.located ↔ o.get? l.path = some l.symbol := by
  rw [Outline.located, mem_locatedFrom]
  constructor
  · rintro ⟨i, rest, hpath, hget⟩
    rw [hpath, List.nil_append, Nat.zero_add]
    exact hget
  · intro h
    cases hpath : l.path with
    | nil => rw [hpath] at h; cases h
    | cons i rest => exact ⟨i, rest, by simp, hpath ▸ h⟩

theorem pairwise_locatedFrom (symbols : List Symbol) :
    ∀ (parent : SymbolPath) (index : Nat),
      (locatedFrom parent index symbols).Pairwise fun a b => a.path < b.path := by
  induction symbols using Symbol.forest_induction with
  | nil => intro _ _; exact .nil
  | cons s rest ihChildren ihRest =>
      intro parent index
      rw [locatedFrom, locatedAt_eq, List.pairwise_append, List.pairwise_cons]
      refine ⟨⟨?_, ihChildren _ _⟩, ihRest _ _, ?_⟩
      · intro l hl
        obtain ⟨i, path, hpath, -⟩ := (mem_locatedFrom _ _ _).mp hl
        have hlt : parent ++ [index] ++ [] < parent ++ [index] ++ (0 + i) :: path :=
          List.append_left_lt (List.nil_lt_cons (0 + i) path)
        rwa [List.append_nil, ← hpath] at hlt
      · -- the index of the first symbol stands in the addresses on the left, a later one on the
        -- right
        intro a ha b hb
        obtain ⟨j, path, hb, -⟩ := (mem_locatedFrom _ _ _).mp hb
        have hlt : ∀ below : SymbolPath, parent ++ index :: below < b.path := by
          intro below
          rw [hb]
          exact List.append_left_lt (List.cons_lt_cons_iff.mpr (.inl (by omega)))
        rcases List.mem_cons.mp ha with rfl | ha
        · exact hlt []
        · obtain ⟨i, below, ha, -⟩ := (mem_locatedFrom _ _ _).mp ha
          rw [ha, List.append_assoc]
          exact hlt _

theorem Outline.pairwise_located (o : Outline) :
    o.located.Pairwise fun a b => a.path < b.path :=
  pairwise_locatedFrom _ _ _

theorem Symbol.flatten_eq_map_locatedFrom (symbols : List Symbol) :
    ∀ (parent : SymbolPath) (index : Nat),
      Symbol.flatten symbols = (locatedFrom parent index symbols).map (·.symbol.detached) := by
  induction symbols using Symbol.forest_induction with
  | nil => intro _ _; rfl
  | cons s rest ihChildren ihRest =>
      intro parent index
      rw [Symbol.flatten, Symbol.preorder_eq, locatedFrom, locatedAt_eq, List.map_append,
        List.map_cons, ← ihChildren, ← ihRest]

theorem Symbol.flatten_eq_flatMap (symbols : List Symbol) :
    Symbol.flatten symbols = symbols.flatMap Symbol.preorder := by
  induction symbols with
  | nil => rfl
  | cons s rest ih => rw [Symbol.flatten, List.flatMap_cons, ih]

/-! ## An outline to look at -/

/-- A symbol over whole lines whose name stands on the first of them. -/
def Symbol.block (name detail : String) (kind : SymbolKind) (first last : UInt32)
    (children : List Symbol) : Symbol where
  name
  detail
  kind
  range := ⟨⟨first, 0⟩, ⟨last, 1⟩⟩
  selectionRange := ⟨⟨first, 0⟩, ⟨first, 4⟩⟩
  children

/-- A class with a forward declaration that has something inside, and with a method around a local
function; behind the class, a function. -/
def Outline.sample : Outline :=
  ⟨[.block "Shop" "" .classType 0 100
      [.block "Item" "declaration" .struct 5 20 [.block "price" "" .field 6 8 []],
        .block "sell" "" .method 30 60 [.block "total" "" .function 40 50 []]],
    .block "main" "" .function 120 130 []]⟩

example : Outline.sample.located.map (·.path) = [[0], [0, 0], [0, 0, 0], [0, 1], [0, 1, 0], [1]] :=
  rfl

end OutlineNav
