import Mathlib.Data.List.Basic
import OutlineNav.Outline.Navigable
import OutlineNav.Proofs.Addresses

/-!
# Levels

The targets of an outline form a forest of their own, in which the owner of a target is the nearest
target around it: `enclosing?` finds it by its address, whatever excluded symbols stand in between.
`mem_levelBelow` says that the lists of `navigable` are the sibling lists of that forest.
-/

namespace OutlineNav

namespace Outline

/-! ## Targets by their address -/

/-- A target of navigation together with its address. -/
def IsTarget (o : Outline) (l : Located) : Prop :=
  o.get? l.path = some l.symbol ∧ l.symbol.isNavigable = true

/-- The target at an address. -/
def target? (o : Outline) (path : SymbolPath) : Option Located :=
  (o.locate? path).filter (·.symbol.isNavigable)

/-- The nearest target around an address: the last one on the way down to it. -/
def enclosing? (o : Outline) (path : SymbolPath) : Option Located :=
  ((List.range path.length).filterMap fun n => o.target? (path.take n)).getLast?

theorem target?_eq_some {o : Outline} {path : SymbolPath} {l : Located} :
    o.target? path = some l ↔ l.path = path ∧ o.IsTarget l := by
  rw [target?, Option.filter_eq_some_iff, locate?, Option.map_eq_some_iff]
  constructor
  · rintro ⟨⟨s, hs, rfl⟩, hnav⟩
    exact ⟨rfl, hs, hnav⟩
  · rintro ⟨rfl, hget, hnav⟩
    exact ⟨⟨l.symbol, hget, rfl⟩, hnav⟩

theorem target?_of_not_navigable {o : Outline} {path : SymbolPath} {s : Symbol}
    (hs : o.get? path = some s) (hnav : s.isNavigable = false) : o.target? path = none := by
  rw [target?, locate?, hs, Option.map_some, Option.filter_some_neg (by simpa using hnav)]

theorem IsTarget.target?_eq {o : Outline} {l : Located} (h : o.IsTarget l) :
    o.target? l.path = some l :=
  target?_eq_some.mpr ⟨rfl, h⟩

theorem IsTarget.locate?_eq {o : Outline} {l : Located} (h : o.IsTarget l) :
    o.locate? l.path = some l := by
  rw [locate?, h.1, Option.map_some]

theorem IsTarget.path_ne_nil {o : Outline} {l : Located} (h : o.IsTarget l) : l.path ≠ [] := by
  intro hnil
  have := h.1
  rw [hnil] at this
  cases this

theorem IsTarget.eq_of_path {o : Outline} {l m : Located} (hl : o.IsTarget l) (hm : o.IsTarget m)
    (h : l.path = m.path) : l = m :=
  Option.some.inj (hl.target?_eq.symm.trans (h ▸ hm.target?_eq))

theorem enclosing?_concat (o : Outline) (path : SymbolPath) (i : Nat) :
    o.enclosing? (path ++ [i]) = (o.target? path).or (o.enclosing? path) := by
  have htake : ∀ n ∈ List.range path.length,
      o.target? ((path ++ [i]).take n) = o.target? (path.take n) := by
    intro n hn
    rw [List.take_append_of_le_length (Nat.le_of_lt (List.mem_range.mp hn))]
  rw [enclosing?, List.length_append, List.length_singleton, List.range_succ,
    List.filterMap_append, List.filterMap_congr htake, List.getLast?_append, ← enclosing?,
    List.filterMap_cons, List.take_left]
  cases o.target? path <;> rfl

/-- The enclosing target is a target around the address, and the longest one. -/
theorem enclosing?_eq_some {o : Outline} {path : SymbolPath} {l : Located}
    (h : o.enclosing? path = some l) :
    o.IsTarget l ∧ l.path <+: path ∧ l.path ≠ path ∧
      ∀ m, o.IsTarget m → m.path <+: path → m.path ≠ path → m.path <+: l.path := by
  induction path using List.reverseRecOn with
  | nil => cases h
  | append_singleton path i ih =>
      rw [enclosing?_concat] at h
      have hbelow :
          ∀ m : Located, m.path <+: path ++ [i] → m.path ≠ path ++ [i] → m.path <+: path :=
        fun m hpre hne => (List.prefix_concat_iff.mp hpre).resolve_left hne
      cases ht : o.target? path with
      | some t =>
          rw [ht, Option.some_or, Option.some.injEq] at h
          obtain ⟨rfl, htarget⟩ := target?_eq_some.mp (h ▸ ht)
          exact ⟨htarget, List.prefix_append .., by simp,
            fun m _ hpre hne => hbelow m hpre hne⟩
      | none =>
          rw [ht, Option.none_or] at h
          obtain ⟨htarget, hpre, -, hlongest⟩ := ih h
          refine ⟨htarget, hpre.trans (List.prefix_append ..), ?_, ?_⟩
          · intro heq
            exact SymbolPath.concat_not_prefix_self path i (heq ▸ hpre)
          · intro m hm hmpre hmne
            refine hlongest m hm (hbelow m hmpre hmne) fun heq => ?_
            rw [target?_eq_some.mpr ⟨heq, hm⟩] at ht
            cases ht

/-- Inside of a target there is always an enclosing one. -/
theorem IsTarget.exists_enclosing? {o : Outline} {m : Located} (hm : o.IsTarget m)
    {path : SymbolPath} (hpre : m.path <+: path) (hne : m.path ≠ path) :
    ∃ l, o.enclosing? path = some l := by
  induction path using List.reverseRecOn with
  | nil => exact absurd (List.prefix_nil.mp hpre) hne
  | append_singleton path i ih =>
      rw [enclosing?_concat]
      cases ht : o.target? path with
      | some t => exact ⟨t, rfl⟩
      | none =>
          refine ih ((List.prefix_concat_iff.mp hpre).resolve_left hne) fun heq => ?_
          rw [target?_eq_some.mpr ⟨heq, hm⟩] at ht
          cases ht

theorem enclosing?_concat_of_target {o : Outline} {l : Located} (h : o.IsTarget l) (i : Nat) :
    o.enclosing? (l.path ++ [i]) = some l := by
  rw [enclosing?_concat, h.target?_eq, Option.some_or]

/-! ## Levels by their owner -/

/-- The targets right below a target; without one, the topmost targets. -/
def levelBelow (o : Outline) : (owner : Option Located) → List Located
  | none => o.topLevel
  | some l => l.members

theorem IsTarget.lt_length_childrenAt {o : Outline} {m : Located} (hm : o.IsTarget m)
    {path : SymbolPath} {i : Nat} (hpre : path ++ [i] <+: m.path) :
    i < (o.childrenAt path).length := by
  have hsome := get?_isSome_of_prefix (by simp) hpre (Option.isSome_of_eq_some hm.1)
  rw [get?_concat, Option.isSome_iff_exists] at hsome
  obtain ⟨s, hs⟩ := hsome
  exact (List.getElem?_eq_some_iff.mp hs).1

theorem mem_navigableAt {o : Outline} {m : Located} {owner : Option Located} {path : SymbolPath}
    {s : Symbol} (hs : o.get? path = some s) (howner : o.enclosing? path = owner)
    (hbelow : s.isNavigable = false → (m ∈ navigableFrom path 0 s.children ↔
      (∃ i, i < s.children.length ∧ path ++ [0 + i] <+: m.path) ∧
        o.IsTarget m ∧ o.enclosing? m.path = owner)) :
    m ∈ navigableAt path s ↔ path <+: m.path ∧ o.IsTarget m ∧ o.enclosing? m.path = owner := by
  subst howner
  rw [navigableAt_eq]
  split
  · next hnav =>
    have ht : o.IsTarget ⟨path, s⟩ := ⟨hs, hnav⟩
    rw [List.mem_singleton]
    constructor
    · rintro rfl
      exact ⟨List.prefix_rfl, ht, rfl⟩
    · rintro ⟨hpre, hm, howner⟩
      by_cases heq : path = m.path
      · exact hm.eq_of_path ht heq.symm
      · -- the symbol at `path` would be around `m` and longer than the enclosing target
        obtain ⟨l, hl⟩ := ht.exists_enclosing? hpre heq
        obtain ⟨-, -, -, hlongest⟩ := enclosing?_eq_some hl
        obtain ⟨-, hlpre, hlne, -⟩ := enclosing?_eq_some (howner ▸ hl)
        exact absurd (hlpre.eq_of_length_le (hlongest _ ht hpre heq).length_le) hlne
  · next hnav =>
    rw [hbelow (by simpa using hnav)]
    constructor
    · rintro ⟨⟨i, -, hpre⟩, hm⟩
      exact ⟨(List.prefix_append ..).trans hpre, hm⟩
    · rintro ⟨⟨_ | ⟨i, rest⟩, hpath⟩, hm, howner⟩
      · rw [List.append_nil] at hpath
        have hsymbol := hm.1
        rw [← hpath, hs, Option.some.injEq] at hsymbol
        exact absurd (hsymbol ▸ hm.2) hnav
      · have hpre : path ++ [i] <+: m.path := ⟨rest, by rw [← hpath, List.append_assoc]; rfl⟩
        have hi := hm.lt_length_childrenAt hpre
        rw [childrenAt_of_get? hs] at hi
        exact ⟨⟨i, hi, by rwa [Nat.zero_add]⟩, hm, howner⟩

theorem mem_navigableFrom {o : Outline} {m : Located} {owner : Option Located}
    (symbols : List Symbol) :
    ∀ (parent : SymbolPath) (index : Nat),
      (∀ i, o.get? (parent ++ [index + i]) = symbols[i]?) →
      (∀ i, o.enclosing? (parent ++ [i]) = owner) →
      (m ∈ navigableFrom parent index symbols ↔
        (∃ i, i < symbols.length ∧ parent ++ [index + i] <+: m.path) ∧
          o.IsTarget m ∧ o.enclosing? m.path = owner) := by
  induction symbols using Symbol.forest_induction with
  | nil => intro parent index _ _; simp [navigableFrom]
  | cons s rest ihChildren ihRest =>
      intro parent index hget howner
      have hs : o.get? (parent ++ [index]) = some s := hget 0
      have hrest := ihRest parent (index + 1)
        (fun i => by rw [← List.getElem?_cons_succ, ← hget, Nat.add_right_comm, Nat.add_assoc])
        howner
      rw [navigableFrom, List.mem_append, hrest]
      have hfirst := mem_navigableAt (m := m) hs (howner index) fun hnav =>
        ihChildren (parent ++ [index]) 0
          (fun i => by rw [get?_concat, childrenAt_of_get? hs, Nat.zero_add])
          (fun i => by
            rw [enclosing?_concat, target?_of_not_navigable hs hnav, Option.none_or, howner])
      rw [hfirst]
      constructor
      · rintro (⟨hpre, hm⟩ | ⟨⟨i, hi, hpre⟩, hm⟩)
        · exact ⟨⟨0, Nat.succ_pos _, hpre⟩, hm⟩
        · exact ⟨⟨i + 1, Nat.succ_lt_succ hi, by rwa [Nat.add_comm i, ← Nat.add_assoc]⟩, hm⟩
      · rintro ⟨⟨_ | i, hi, hpre⟩, hm⟩
        · exact .inl ⟨hpre, hm⟩
        · exact .inr ⟨⟨i, Nat.lt_of_succ_lt_succ hi, by rwa [Nat.add_assoc, Nat.add_comm 1]⟩, hm⟩

/-- What owns a level: a target or nothing. -/
def IsOwner (o : Outline) (owner : Option Located) : Prop := ∀ l ∈ owner, o.IsTarget l

theorem isOwner_none (o : Outline) : o.IsOwner none := nofun

theorem IsTarget.isOwner {o : Outline} {l : Located} (h : o.IsTarget l) : o.IsOwner (some l) := by
  rintro _ ⟨⟩
  exact h

theorem isOwner_enclosing? (o : Outline) (path : SymbolPath) : o.IsOwner (o.enclosing? path) :=
  fun _ h => (enclosing?_eq_some h).1

/-- The lists of navigation are the sibling lists of the targets. -/
theorem IsOwner.mem_levelBelow {o : Outline} {owner : Option Located} (h : o.IsOwner owner)
    {m : Located} : m ∈ o.levelBelow owner ↔ o.IsTarget m ∧ o.enclosing? m.path = owner := by
  cases owner with
  | none =>
      have := mem_navigableFrom (m := m) o.roots [] 0
        (fun i => by rw [get?_concat, Nat.zero_add]; rfl) (fun i => enclosing?_concat o [] i)
      rw [levelBelow, topLevel, navigable, this]
      apply and_iff_right_of_imp
      rintro ⟨hm, -⟩
      obtain ⟨i, rest, hpath⟩ := List.exists_cons_of_ne_nil hm.path_ne_nil
      have hpre : [] ++ [i] <+: m.path := ⟨rest, hpath.symm⟩
      exact ⟨i, hm.lt_length_childrenAt hpre, by rwa [Nat.zero_add]⟩
  | some l =>
      have hl : o.IsTarget l := h l rfl
      have := mem_navigableFrom (m := m) l.symbol.children l.path 0
        (fun i => by rw [get?_concat, childrenAt_of_get? hl.1, Nat.zero_add])
        (enclosing?_concat_of_target hl)
      rw [levelBelow, Located.members, navigable, this]
      apply and_iff_right_of_imp
      rintro ⟨hm, howner⟩
      obtain ⟨-, ⟨_ | ⟨i, rest⟩, hpath⟩, hne, -⟩ := enclosing?_eq_some howner
      · exact absurd ((List.append_nil _).symm.trans hpath) hne
      · have hpre : l.path ++ [i] <+: m.path := ⟨rest, by rw [← hpath, List.append_assoc]; rfl⟩
        have hi := hm.lt_length_childrenAt hpre
        rw [childrenAt_of_get? hl.1] at hi
        exact ⟨i, hi, by rwa [Nat.zero_add]⟩

theorem IsTarget.mem_level {o : Outline} {m : Located} (h : o.IsTarget m) :
    m ∈ o.levelBelow (o.enclosing? m.path) :=
  (isOwner_enclosing? o m.path).mem_levelBelow.mpr ⟨h, rfl⟩

theorem IsTarget.mem_members {o : Outline} {l m : Located} (h : o.IsTarget l) :
    m ∈ l.members ↔ o.IsTarget m ∧ o.enclosing? m.path = some l :=
  h.isOwner.mem_levelBelow

theorem navigableFrom_sublist (symbols : List Symbol) :
    ∀ (parent : SymbolPath) (index : Nat),
      List.Sublist (navigableFrom parent index symbols) (locatedFrom parent index symbols) := by
  induction symbols using Symbol.forest_induction with
  | nil => intro _ _; exact .slnil
  | cons s rest ihChildren ihRest =>
      intro parent index
      rw [navigableFrom, locatedFrom, navigableAt_eq, locatedAt_eq]
      refine List.Sublist.append ?_ (ihRest _ _)
      split
      · exact (List.nil_sublist _).cons_cons _
      · exact (ihChildren _ _).cons _

/-- Members are listed in the order of their addresses. -/
theorem pairwise_navigable (parent : SymbolPath) (symbols : List Symbol) :
    (navigable parent symbols).Pairwise fun a b => a.path < b.path :=
  (pairwise_locatedFrom symbols parent 0).sublist (navigableFrom_sublist ..)

theorem pairwise_levelBelow (o : Outline) (owner : Option Located) :
    (o.levelBelow owner).Pairwise fun a b => a.path < b.path := by
  cases owner <;> exact pairwise_navigable ..

theorem nodup_levelBelow (o : Outline) (owner : Option Located) : (o.levelBelow owner).Nodup := by
  refine (o.pairwise_levelBelow owner).imp ?_
  rintro l m hlt rfl
  exact absurd hlt (List.lt_irrefl _)

end Outline

theorem navigableFrom_append (xs ys : List Symbol) (parent : SymbolPath) (index : Nat) :
    navigableFrom parent index (xs ++ ys) =
      navigableFrom parent index xs ++ navigableFrom parent (index + xs.length) ys := by
  induction xs generalizing index with
  | nil => rfl
  | cons s rest ih =>
      rw [List.cons_append, navigableFrom, navigableFrom, ih, List.append_assoc, List.length_cons,
        show index + 1 + rest.length = index + (rest.length + 1) by omega]

end OutlineNav
