import OutlineNav.Proofs.Addresses
import OutlineNav.Proofs.Containment

/-!
# One insertion, by addresses

Where a symbol goes that is put into a forest: `walk` is the address of the deepest container that
the descent along the first container of each level reaches, `landing` the address behind its last
child.

Addresses are what makes insertions easy to follow. Nothing that is already there gets another
address (`label?_attach`), the symbol and everything in it are found below its landing
(`get?_attach_landing`), and the walks of all other symbols that the new one does not contain end
where they ended (`walk_attach`).
-/

namespace OutlineNav

namespace Outline

/-! ## The walk into the containers -/

mutual

/-- The way from a symbol down to where a range belongs. -/
def walkBelow (r : Range) : Symbol → SymbolPath
  | ⟨_, _, _, _, _, children⟩ => walkFrom r 0 children

/-- The way that enters the first of the siblings `index`, `index + 1`, … that strictly contains the
range, and goes on in its children. -/
def walkFrom (r : Range) (index : Nat) : List Symbol → SymbolPath
  | [] => []
  | t :: rest =>
    if t.range.strictlyContains r then index :: walkBelow r t else walkFrom r (index + 1) rest

end

/-- The address at which the walk of a range ends: no child of the symbol there strictly contains
the range. The walk ends at the empty address if none of the roots does. -/
def walk (r : Range) (siblings : List Symbol) : SymbolPath := walkFrom r 0 siblings

theorem walkBelow_eq (r : Range) (t : Symbol) : walkBelow r t = walk r t.children := by
  cases t; rfl

section Walk

variable {r : Range} {t : Symbol} {siblings before after : List Symbol}

theorem walkFrom_of_no_container (h : ∀ t ∈ siblings, t.range.strictlyContains r = false) :
    ∀ index, walkFrom r index siblings = [] := by
  induction siblings with
  | nil => intro index; rfl
  | cons t rest ih =>
      obtain ⟨ht, hrest⟩ := List.forall_mem_cons.mp h
      intro index
      rw [walkFrom, ht]
      exact ih hrest (index + 1)

theorem walk_of_no_container (h : ∀ t ∈ siblings, t.range.strictlyContains r = false) :
    walk r siblings = [] :=
  walkFrom_of_no_container h 0

theorem walk_append_cons (hbefore : ∀ u ∈ before, u.range.strictlyContains r = false)
    (ht : t.range.strictlyContains r = true) :
    walk r (before ++ t :: after) = before.length :: walk r t.children := by
  have hfrom : ∀ index, walkFrom r index (before ++ t :: after) =
      (index + before.length) :: walk r t.children := by
    induction before with
    | nil => intro index; rw [List.nil_append, walkFrom, if_pos ht, walkBelow_eq]; rfl
    | cons u before ih =>
        obtain ⟨hu, hrest⟩ := List.forall_mem_cons.mp hbefore
        intro index
        rw [List.cons_append, walkFrom, hu, if_neg Bool.false_ne_true, ih hrest, List.length_cons,
          show index + 1 + before.length = index + (before.length + 1) by omega]
  rw [walk, hfrom, Nat.zero_add]

/-- To prove something of every level for a range, prove it where no sibling contains the range, and
where the first one that does has children with the property. -/
theorem walk_induction {P : List Symbol → Prop} (r : Range)
    (stop : ∀ siblings, (∀ t ∈ siblings, t.range.strictlyContains r = false) → P siblings)
    (enter : ∀ before t after, (∀ u ∈ before, u.range.strictlyContains r = false) →
      t.range.strictlyContains r = true → P t.children → P (before ++ t :: after)) :
    ∀ siblings, P siblings := by
  have step : ∀ siblings, (∀ t ∈ siblings, P t.children) → P siblings := by
    intro siblings hchildren
    cases hfind : siblings.find? (·.range.strictlyContains r) with
    | none =>
        have hnone := List.find?_eq_none.mp hfind
        exact stop siblings fun t ht => Bool.eq_false_iff.mpr (hnone t ht)
    | some t =>
        obtain ⟨ht, before, after, rfl, hbefore⟩ := List.find?_eq_some_iff_append.mp hfind
        refine enter before t after (fun u hu => ?_) ht (hchildren t (by simp))
        simpa using hbefore u hu
  have hchildren : ∀ siblings : List Symbol, ∀ t ∈ siblings, P t.children := by
    intro siblings
    induction siblings using Symbol.forest_induction with
    | nil => intro t ht; cases ht
    | cons s rest ihChildren ihRest =>
        exact List.forall_mem_cons.mpr ⟨step s.children ihChildren, ihRest⟩
  exact fun siblings => step siblings (hchildren siblings)

/-! ### Below the first container -/

theorem get?_append_cons_self : get? ⟨before ++ t :: after⟩ [before.length] = some t := by
  simp [get?, Symbol.descendant?]

theorem get?_append_cons_below (i : Nat) (path : SymbolPath) :
    get? ⟨before ++ t :: after⟩ (before.length :: i :: path) = get? ⟨t.children⟩ (i :: path) := by
  simp [get?, Symbol.descendant?]

theorem childrenAt_append_cons (path : SymbolPath) :
    childrenAt ⟨before ++ t :: after⟩ (before.length :: path) = childrenAt ⟨t.children⟩ path := by
  cases path with
  | nil => rw [childrenAt_of_get? get?_append_cons_self]; rfl
  | cons i path => simp only [childrenAt, get?_append_cons_below]

theorem get?_append_cons_aside (u : Symbol) {i : Nat} (h : i ≠ before.length) (path : SymbolPath) :
    get? ⟨before ++ t :: after⟩ (i :: path) = get? ⟨before ++ u :: after⟩ (i :: path) := by
  have hmember : (before ++ t :: after)[i]? = (before ++ u :: after)[i]? := by
    rcases Nat.lt_or_gt_of_ne h with hlt | hgt
    · rw [List.getElem?_append_left hlt, List.getElem?_append_left hlt]
    · obtain ⟨k, rfl⟩ := Nat.exists_eq_add_of_lt hgt
      simp [List.getElem?_append_right, Nat.add_assoc]
  rw [get?, get?, hmember]

/-! ### What the walk passes and where it ends -/

theorem not_strictlyContains_of_mem_level (r : Range) (siblings : List Symbol) :
    ∀ u ∈ childrenAt ⟨siblings⟩ (walk r siblings), u.range.strictlyContains r = false := by
  induction siblings using walk_induction r with
  | stop siblings h => rw [walk_of_no_container h]; exact h
  | enter before t after hbefore ht ih =>
      rw [walk_append_cons hbefore ht, childrenAt_append_cons]
      exact ih

theorem strictlyContains_of_prefix_walk {path : SymbolPath} (hne : path ≠ [])
    (hpre : path <+: walk r siblings) {a : Symbol} (ha : get? ⟨siblings⟩ path = some a) :
    a.range.strictlyContains r = true := by
  induction siblings using walk_induction r generalizing path with
  | stop siblings h =>
      rw [walk_of_no_container h] at hpre
      exact absurd (List.prefix_nil.mp hpre) hne
  | enter before t after hbefore ht ih =>
      rw [walk_append_cons hbefore ht] at hpre
      obtain ⟨i, path, rfl⟩ := List.exists_cons_of_ne_nil hne
      obtain ⟨rfl, hbelow⟩ := List.cons_prefix_cons.mp hpre
      cases path with
      | nil =>
          rw [get?_append_cons_self] at ha
          exact Option.some.inj ha ▸ ht
      | cons j path =>
          rw [get?_append_cons_below] at ha
          exact ih (List.cons_ne_nil j path) hbelow ha

theorem walk_eq_nil_iff :
    walk r siblings = [] ↔ ∀ t ∈ siblings, t.range.strictlyContains r = false := by
  refine ⟨fun h => ?_, walk_of_no_container⟩
  have hlevel := not_strictlyContains_of_mem_level r siblings
  rwa [h] at hlevel

end Walk

/-! ## Landing -/

/-- The address that a symbol gets when it is put into a forest. -/
def landing (s : Symbol) (siblings : List Symbol) : SymbolPath :=
  let home := walk s.range siblings
  home ++ [(childrenAt ⟨siblings⟩ home).length]

/-- The symbol at an address, apart from what is inside it. -/
def label? (o : Outline) (path : SymbolPath) : Option Symbol := (o.get? path).map (·.detached)

section Landing

variable {s t : Symbol} {siblings before after : List Symbol}

theorem landing_of_no_container (h : ∀ t ∈ siblings, t.range.strictlyContains s.range = false) :
    landing s siblings = [siblings.length] := by
  simp only [landing, walk_of_no_container h]
  rfl

theorem landing_append_cons (hbefore : ∀ u ∈ before, u.range.strictlyContains s.range = false)
    (ht : t.range.strictlyContains s.range = true) :
    landing s (before ++ t :: after) = before.length :: landing s t.children := by
  simp only [landing, walk_append_cons hbefore ht, childrenAt_append_cons, List.cons_append]

theorem landing_ne_nil (s : Symbol) (siblings : List Symbol) : landing s siblings ≠ [] := by
  simp [landing]

/-- Nothing is at or below the landing before. -/
theorem get?_landing_append (s : Symbol) (siblings : List Symbol) (rest : SymbolPath) :
    get? ⟨siblings⟩ (landing s siblings ++ rest) = none := by
  have hfree : get? ⟨siblings⟩ (landing s siblings) = none := by
    rw [landing, get?_concat]
    exact List.getElem?_eq_none (Nat.le_refl _)
  by_contra hsome
  have := get?_isSome_of_prefix (landing_ne_nil s siblings) (List.prefix_append _ rest)
    (Option.isSome_iff_ne_none.mpr hsome)
  rw [hfree] at this
  cases this

/-- The symbol with everything in it is found at its landing. -/
theorem get?_attach_landing (s : Symbol) (siblings : List Symbol) (rest : SymbolPath) :
    get? ⟨attach s siblings⟩ (landing s siblings ++ rest) = s.descendant? rest := by
  induction siblings using walk_induction s.range with
  | stop siblings h =>
      rw [landing_of_no_container h, attach_eq_append h]
      simp [get?]
  | enter before t after hbefore ht ih =>
      rw [landing_append_cons hbefore ht, attach_append_cons hbefore ht]
      obtain ⟨i, path, hlanding⟩ := List.exists_cons_of_ne_nil (landing_ne_nil s t.children)
      rw [hlanding] at ih ⊢
      rw [List.cons_append, List.cons_append, get?_append_cons_below]
      exact ih

/-- Whatever is there already keeps its address. -/
theorem label?_attach (s : Symbol) (siblings : List Symbol) {path : SymbolPath}
    (h : ¬ landing s siblings <+: path) :
    label? ⟨attach s siblings⟩ path = label? ⟨siblings⟩ path := by
  induction siblings using walk_induction s.range generalizing path with
  | stop siblings hnone =>
      rw [landing_of_no_container hnone] at h
      rw [attach_eq_append hnone]
      cases path with
      | nil => rfl
      | cons i path =>
          have hi : i ≠ siblings.length := by
            rintro rfl
            exact h (List.cons_prefix_cons.mpr ⟨rfl, List.nil_prefix⟩)
          rw [label?, label?, get?, get?, List.getElem?_append]
          split
          · rfl
          · rename_i hle
            rw [List.getElem?_eq_none (by simp; omega), List.getElem?_eq_none (by simp; omega)]
  | enter before t after hbefore ht ih =>
      rw [landing_append_cons hbefore ht] at h
      rw [attach_append_cons hbefore ht]
      cases path with
      | nil => rfl
      | cons i path =>
          by_cases hi : i = before.length
          · subst hi
            cases path with
            | nil => simp only [label?, get?_append_cons_self, Option.map_some, Symbol.detached]
            | cons j path =>
                simp only [label?, get?_append_cons_below]
                exact ih fun hpre => h (List.cons_prefix_cons.mpr ⟨rfl, hpre⟩)
          · rw [label?, label?, get?_append_cons_aside t hi]

/-- A walk is not diverted by a symbol that does not contain its range. -/
theorem walk_attach {r : Range} (h : s.range.strictlyContains r = false)
    (siblings : List Symbol) : walk r (attach s siblings) = walk r siblings := by
  have hfrom : ∀ index, walkFrom r index (attach s siblings) = walkFrom r index siblings := by
    induction siblings using Symbol.forest_induction with
    | nil =>
        intro index
        simp only [attach, walkFrom, h, Bool.false_eq_true, if_false]
    | cons t rest ihChildren ihRest =>
        intro index
        rw [attach]
        split
        · simp only [attachBelow_eq, walkFrom, walkBelow_eq, walk, ihChildren]
        · simp only [walkFrom, ihRest]
  exact hfrom 0

end Landing

/-! ## Nothing is lost -/

open List in
theorem flatten_attach (s : Symbol) (siblings : List Symbol) :
    (Symbol.flatten (attach s siblings)).Perm (s.preorder ++ Symbol.flatten siblings) := by
  induction siblings using Symbol.forest_induction with
  | nil => exact .refl _
  | cons t rest ihChildren ihRest =>
      rw [attach]
      split
      · rw [Symbol.flatten, attachBelow_eq, Symbol.preorder_eq, Symbol.flatten,
          Symbol.preorder_eq t]
        show (t.detached :: Symbol.flatten (attach s t.children) ++ Symbol.flatten rest).Perm _
        calc t.detached :: Symbol.flatten (attach s t.children) ++ Symbol.flatten rest
          _ ~ t.detached :: (s.preorder ++ Symbol.flatten t.children) ++ Symbol.flatten rest :=
              (ihChildren.cons _).append_right _
          _ = t.detached :: (s.preorder ++ (Symbol.flatten t.children ++ Symbol.flatten rest)) := by
              rw [List.cons_append, List.append_assoc]
          _ ~ s.preorder ++ t.detached :: (Symbol.flatten t.children ++ Symbol.flatten rest) :=
              List.perm_middle.symm
      · calc Symbol.flatten (t :: attach s rest)
          _ ~ t.preorder ++ (s.preorder ++ Symbol.flatten rest) := ihRest.append_left _
          _ ~ s.preorder ++ (t.preorder ++ Symbol.flatten rest) := List.perm_append_comm_assoc ..

end Outline

end OutlineNav
