import OutlineNav.Proofs.Levels

/-!
# Unfolding an outline

All targets of an outline, found level by level: the topmost ones, and behind each target its
members. A level also holds what excluded symbols contain, and every member has its address in the
outline, not its place in the level. So the levels unfold into the navigable ones among all symbols
(`unfold_navigableFrom`): none is left out, and none is listed at the address of another.

`Outline.unfolding` is the same listing with each target under the owner of its level. The owner is
the nearest target around it, and nothing but excluded symbols stands in between
(`unfolding_exact`).
-/

namespace OutlineNav

/-! ## Every target, in pre-order -/

theorem unfold_append (a b : List Located) : unfold (a ++ b) = unfold a ++ unfold b := by
  induction a with
  | nil => rw [unfold, List.nil_append, List.nil_append]
  | cons l rest ih =>
      rw [List.cons_append, unfold, unfold, ih, List.cons_append, List.append_assoc]

/-- The targets of a sibling list unfold into those among all symbols in it and below it. -/
theorem unfold_navigableFrom (symbols : List Symbol) :
    ∀ (parent : SymbolPath) (index : Nat),
      unfold (navigableFrom parent index symbols) =
        (locatedFrom parent index symbols).filter (·.symbol.isNavigable) := by
  induction symbols using Symbol.forest_induction with
  | nil => intro _ _; rw [navigableFrom, locatedFrom, unfold, List.filter_nil]
  | cons s rest ihChildren ihRest =>
      intro parent index
      rw [navigableFrom, navigableAt_eq, locatedFrom, locatedAt_eq, unfold_append, ihRest,
        List.filter_append, List.filter_cons, ← ihChildren]
      -- the children of a target are unfolded behind it, those of an excluded symbol in its place
      cases s.isNavigable with
      | true => rw [if_pos rfl, if_pos rfl, unfold, unfold, List.append_nil]; rfl
      | false => rfl

theorem Outline.targets_eq (o : Outline) : o.targets = o.located.filter (·.symbol.isNavigable) :=
  unfold_navigableFrom ..

theorem Outline.mem_targets {o : Outline} {l : Located} : l ∈ o.targets ↔ o.IsTarget l := by
  rw [targets_eq, List.mem_filter, mem_located, IsTarget]

theorem Outline.pairwise_targets (o : Outline) :
    o.targets.Pairwise fun a b => a.path < b.path := by
  rw [targets_eq]
  exact o.pairwise_located.sublist List.filter_sublist

theorem map_detached_targets (o : Outline) :
    o.targets.map (·.symbol.detached) = o.flatten.filter (·.isNavigable) := by
  rw [o.targets_eq, Outline.flatten, Symbol.flatten_eq_map_locatedFrom o.roots [] 0,
    List.filter_map]
  rfl

/-! ## The nearest target -/

/-- The address of the owner of a level; the topmost level has the empty path as owner. -/
def ownerPath (owner : Option Located) : SymbolPath := owner.elim [] (·.path)

namespace Outline

/-- The owner is the nearest target around an address: whatever stands between the two is excluded.
Without an owner, whatever stands around the address is. -/
structure IsNearest (o : Outline) (owner : Option Located) (path : SymbolPath) : Prop where
  isOwner : o.IsOwner owner
  around : ownerPath owner <+: path
  ne : ownerPath owner ≠ path
  excluded : ∀ between, ownerPath owner <+: between → ownerPath owner ≠ between →
    between <+: path → between ≠ path → ∃ s, o.get? between = some s ∧ s.isNavigable = false

theorem ownerPath_enclosing? (o : Outline) {path : SymbolPath} (hpath : path ≠ []) :
    ownerPath (o.enclosing? path) <+: path ∧ ownerPath (o.enclosing? path) ≠ path := by
  cases howner : o.enclosing? path with
  | none => exact ⟨List.nil_prefix, hpath.symm⟩
  | some l =>
      obtain ⟨-, hpre, hne, -⟩ := enclosing?_eq_some howner
      exact ⟨hpre, hne⟩

theorem IsTarget.prefix_ownerPath {o : Outline} {m : Located} (hm : o.IsTarget m)
    {path : SymbolPath} (hpre : m.path <+: path) (hne : m.path ≠ path) :
    m.path <+: ownerPath (o.enclosing? path) := by
  obtain ⟨l, hl⟩ := hm.exists_enclosing? hpre hne
  obtain ⟨-, -, -, hlongest⟩ := enclosing?_eq_some hl
  rw [hl]
  exact hlongest m hm hpre hne

theorem isNearest_enclosing? {o : Outline} {path : SymbolPath} (h : (o.get? path).isSome) :
    o.IsNearest (o.enclosing? path) path := by
  obtain ⟨t, ht⟩ := Option.isSome_iff_exists.mp h
  obtain ⟨haround, hne⟩ := o.ownerPath_enclosing? (ne_nil_of_get? ht)
  refine ⟨isOwner_enclosing? o path, haround, hne, ?_⟩
  intro between hbelow hbelowNe habove haboveNe
  have hnil : between ≠ [] := by
    rintro rfl
    exact hbelowNe (List.prefix_nil.mp hbelow)
  have hsome := get?_isSome_of_prefix hnil habove h
  obtain ⟨s, hs⟩ := Option.isSome_iff_exists.mp hsome
  refine ⟨s, hs, Bool.eq_false_iff.mpr fun hnav => ?_⟩
  -- a target in between would be nearer
  have hnearer : o.IsTarget ⟨between, s⟩ := ⟨hs, hnav⟩
  have hwithin := hnearer.prefix_ownerPath habove haboveNe
  exact hbelowNe (hbelow.eq_of_length_le hwithin.length_le)

end Outline

/-! ## Every target, under its owner -/

/-- A target and the owner of the level in which it is listed. -/
structure Listed where
  owner : Option Located
  target : Located
  deriving DecidableEq

/-- The members of a level under their owner and, behind each, the targets below it. -/
def unfoldBelow (owner : Option Located) : List Located → List Listed
  | [] => []
  | l :: rest => ⟨owner, l⟩ :: (unfoldBelow (some l) l.members ++ unfoldBelow owner rest)
termination_by level => levelSize level
decreasing_by
  · exact levelSize_members_lt_of_mem (List.mem_cons_self ..)
  · have := levelSize_members_lt l
    rw [levelSize]
    omega

namespace Outline

/-- Every target of the outline in pre-order, under the owner of its level. -/
def unfolding (o : Outline) : List Listed := unfoldBelow none o.topLevel

theorem unfoldBelow_eq {o : Outline} {owner : Option Located} {level : List Located}
    (howner : o.IsOwner owner) (hlevel : ∀ l ∈ level, l ∈ o.levelBelow owner) :
    unfoldBelow owner level = (unfold level).map fun l => ⟨o.enclosing? l.path, l⟩ := by
  fun_induction unfoldBelow owner level with
  | case1 owner => rw [unfold, List.map_nil]
  | case2 owner l rest ihMembers ihRest =>
      obtain ⟨hl, henclosing⟩ := howner.mem_levelBelow.mp (hlevel l (List.mem_cons_self ..))
      rw [unfold, List.map_cons, List.map_append, henclosing, ihMembers hl.isOwner fun _ hm => hm,
        ihRest howner fun m hm => hlevel m (List.mem_cons_of_mem _ hm)]

theorem unfolding_eq (o : Outline) :
    o.unfolding = o.targets.map fun l => ⟨o.enclosing? l.path, l⟩ :=
  unfoldBelow_eq o.isOwner_none fun _ h => h

/-- Unfolding an outline level by level lists every target once, in pre-order and at its address:
the targets are the navigable ones among all symbols, up to their children; their addresses ascend,
so that no two are the same; and a symbol is listed at an address if and only if it is the target
there. Each stands under the nearest target around it, with nothing but excluded symbols in
between. -/
theorem unfolding_exact (o : Outline) :
    o.targets.map (·.symbol.detached) = o.flatten.filter (·.isNavigable) ∧
    (o.targets.map (·.path)).Pairwise (· < ·) ∧
    (∀ l, l ∈ o.targets ↔ o.get? l.path = some l.symbol ∧ l.symbol.isNavigable = true) ∧
    o.unfolding.map (·.target) = o.targets ∧
    ∀ entry ∈ o.unfolding, o.IsNearest entry.owner entry.target.path := by
  refine ⟨map_detached_targets o, List.pairwise_map.mpr o.pairwise_targets, fun _ => mem_targets,
    ?_, ?_⟩
  · rw [unfolding_eq, List.map_map]
    exact List.map_id _
  · intro entry hentry
    rw [unfolding_eq] at hentry
    obtain ⟨l, hl, rfl⟩ := List.mem_map.mp hentry
    exact isNearest_enclosing? (Option.isSome_of_eq_some (mem_targets.mp hl).1)

end Outline

/-- A method with a local variable. -/
def sellMethod : Symbol := .block "sell" "" .method 43 60 [.block "total" "" .variable 44 44 []]

/-- A class with the method inside of a declaration inside of a type alias. -/
def shopClass : Symbol :=
  .block "Shop" "" .classType 40 90
    [.block "Handle" "typedef" .struct 41 80
      [.block "Item" "declaration" .struct 42 70 [sellMethod]]]

/-- In front of the class, a type alias around two equal fields, the first in a declaration. -/
def Outline.declared : Outline :=
  let price : Symbol := .block "price" "" .field 2 2 []
  ⟨[.block "Handle" "typedef" .struct 0 30
      [.block "Item" "declaration" .struct 1 20 [price], price],
    shopClass]⟩

/-- Both fields are listed, each at its own address, and the method stands under the class. -/
theorem Outline.unfolding_exact_declared :
    declared.unfolding.map (fun entry => (entry.owner.map (·.path), entry.target.path)) =
      [(none, [0, 0, 0]), (none, [0, 1]), (none, [1]), (some [1], [1, 0, 0, 0]),
        (some [1, 0, 0, 0], [1, 0, 0, 0, 0])] ∧
    ⟨some ⟨[1], shopClass⟩, ⟨[1, 0, 0, 0], sellMethod⟩⟩ ∈ declared.unfolding ∧
    declared.IsNearest (some ⟨[1], shopClass⟩) [1, 0, 0, 0] := by
  have hlisting : declared.unfolding =
      (declared.located.filter (·.symbol.isNavigable)).map fun l =>
        ⟨declared.enclosing? l.path, l⟩ := by
    rw [unfolding_eq, targets_eq]
  have hsell : ⟨some ⟨[1], shopClass⟩, ⟨[1, 0, 0, 0], sellMethod⟩⟩ ∈ declared.unfolding := by
    rw [hlisting]
    decide
  obtain ⟨-, -, -, -, hnearest⟩ := unfolding_exact declared
  refine ⟨?_, hsell, hnearest _ hsell⟩
  rw [hlisting]
  decide

end OutlineNav
