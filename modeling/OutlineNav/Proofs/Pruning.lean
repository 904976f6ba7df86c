import Mathlib.Data.List.Forall2
import OutlineNav.Fold
import OutlineNav.Proofs.Correspondence
import OutlineNav.Proofs.Unfolding

/-!
# Excluded symbols are transparent

`Outline.prune` replaces every excluded symbol by its own pruned contents. Nothing that navigation
or folding does tells the two outlines apart: around every position the same symbols are found, and
the same lines are folded (`prune_transparent`).

The levels of the pruned outline are the levels of the outline with their members pruned, one by one
and in the same order (`forall₂_navigable_pruneForest`), however deep a member lay inside of
excluded symbols. Addresses change, so a level's other members are told by where they are listed and
not by their addresses (`besides_append_cons`). Folds read the targets in pre-order, and these are
the pre-order of the pruned outline (`flatten_pruneForest`).
-/

namespace OutlineNav

/-! ## Levels of the pruned outline -/

/-- The symbol with its contents pruned. -/
def Symbol.pruned (s : Symbol) : Symbol := { s with children := pruneForest s.children }

theorem pruneTree_eq (s : Symbol) :
    pruneTree s = if s.isNavigable then [s.pruned] else pruneForest s.children := by
  cases s; rfl

theorem forall₂_navigableFrom_pruneForest (symbols : List Symbol) :
    ∀ (parent : SymbolPath) (index : Nat) (parent' : SymbolPath) (index' : Nat),
      List.Forall₂ (fun l l' => l'.symbol = l.symbol.pruned) (navigableFrom parent index symbols)
        (navigableFrom parent' index' (pruneForest symbols)) := by
  induction symbols using Symbol.forest_induction with
  | nil => intro _ _ _ _; exact .nil
  | cons s rest ihChildren ihRest =>
      intro parent index parent' index'
      rw [navigableFrom, navigableAt_eq, pruneForest, pruneTree_eq, navigableFrom_append]
      refine List.rel_append ?_ (ihRest ..)
      cases hs : s.isNavigable with
      | true =>
          have hpruned : s.pruned.isNavigable = true := hs
          rw [if_pos rfl, if_pos rfl, navigableFrom, navigableAt_eq, if_pos hpruned]
          exact .cons rfl .nil
      | false => exact ihChildren ..

/-- A level of the pruned outline is a level of the outline with its members pruned. -/
theorem forall₂_navigable_pruneForest (parent parent' : SymbolPath) (symbols : List Symbol) :
    List.Forall₂ (fun l l' => l'.symbol = l.symbol.pruned) (navigable parent symbols)
      (navigable parent' (pruneForest symbols)) :=
  forall₂_navigableFrom_pruneForest ..

/-! ## What a level offers -/

theorem besides_append_cons {position : Position} {before after : List Located} {l : Located}
    (hl : l.symbol.range.contains position = true)
    (hafter : ∀ m ∈ after, m.symbol.range.contains position = false)
    (hpaths : (before ++ l :: after).Pairwise fun a b => a.path < b.path) :
    besides position (before ++ l :: after) = before ++ after := by
  have hother : ∀ m ∈ before ++ after, m.path ≠ l.path := by
    intro m hm heq
    rw [List.pairwise_append, List.pairwise_cons] at hpaths
    obtain ⟨-, ⟨hbehind, -⟩, hfront⟩ := hpaths
    rcases List.mem_append.mp hm with hm | hm
    · exact List.lt_irrefl _ (heq ▸ hfront m hm l (List.mem_cons_self ..))
    · exact List.lt_irrefl _ (heq ▸ hbehind m hm)
  have hkept : ∀ side : List Located, (∀ m ∈ side, m ∈ before ++ after) →
      side.filter (fun m => m.path != l.path) = side := fun side hside =>
    List.filter_eq_self.mpr fun m hm => bne_iff_ne.mpr (hother m (hside m hm))
  rw [besides, lastContaining?_append_cons hl hafter]
  simp only [Option.all_some]
  rw [List.filter_append, List.filter_cons, if_neg (by simp),
    hkept before fun m hm => List.mem_append_left _ hm,
    hkept after fun m hm => List.mem_append_right _ hm]

theorem besides_of_none {position : Position} {level : List Located}
    (h : lastContaining? position level = none) : besides position level = level := by
  rw [besides, h]
  exact List.filter_eq_self.mpr fun _ _ => rfl

section

variable {R : Located → Located → Prop}

theorem forall₂_split {before after : List Located} {l : Located} {level' : List Located}
    (h : List.Forall₂ R (before ++ l :: after) level') :
    ∃ before' l' after', level' = before' ++ l' :: after' ∧ List.Forall₂ R before before' ∧
      R l l' ∧ List.Forall₂ R after after' := by
  induction before generalizing level' with
  | nil =>
      obtain ⟨l', after', hl, hafter, rfl⟩ := List.forall₂_cons_left_iff.mp h
      exact ⟨[], l', after', rfl, .nil, hl, hafter⟩
  | cons m before ih =>
      obtain ⟨m', rest', hm, hrest, rfl⟩ := List.forall₂_cons_left_iff.mp h
      obtain ⟨before', l', after', rfl, hbefore, hl, hafter⟩ := ih hrest
      exact ⟨m' :: before', l', after', rfl, .cons hm hbefore, hl, hafter⟩

variable (hrange : ∀ {l l'}, R l l' → l'.symbol.range = l.symbol.range)

include hrange

theorem forall₂_filter (p : Range → Bool) {level level' : List Located}
    (h : List.Forall₂ R level level') :
    List.Forall₂ R (level.filter (p ·.symbol.range)) (level'.filter (p ·.symbol.range)) := by
  refine List.rel_filter (fun l l' hl => ?_) h
  change p l.symbol.range = true ↔ p l'.symbol.range = true
  rw [hrange hl]

theorem lastContaining?_eq_none_of_forall₂ {position : Position} {level level' : List Located}
    (h : List.Forall₂ R level level') (hnone : lastContaining? position level = none) :
    lastContaining? position level' = none := by
  have hfilter := forall₂_filter hrange (·.contains position) h
  rw [lastContaining?, List.getLast?_eq_none_iff] at hnone ⊢
  rw [hnone] at hfilter
  exact List.forall₂_nil_left_iff.mp hfilter

/-- Levels that correspond member by member have corresponding members that contain a position last,
and so do their other members. -/
theorem forall₂_besides {position : Position} {level level' : List Located}
    (h : List.Forall₂ R level level') (hpaths : level.Pairwise fun a b => a.path < b.path)
    (hpaths' : level'.Pairwise fun a b => a.path < b.path) :
    Option.Rel R (lastContaining? position level) (lastContaining? position level') ∧
      List.Forall₂ R (besides position level) (besides position level') := by
  cases hlast : lastContaining? position level with
  | none =>
      have hlast' := lastContaining?_eq_none_of_forall₂ hrange h hlast
      rw [hlast', besides_of_none hlast, besides_of_none hlast']
      exact ⟨.none, h⟩
  | some l =>
      obtain ⟨before, after, rfl, hl, hafter⟩ := exists_split_of_lastContaining? hlast
      obtain ⟨before', l', after', rfl, hbefore, hR, hbehind⟩ := forall₂_split h
      have hl' : l'.symbol.range.contains position = true := hrange hR ▸ hl
      have hafter' := lastContaining?_eq_none.mp
        (lastContaining?_eq_none_of_forall₂ hrange hbehind (lastContaining?_eq_none.mpr hafter))
      rw [lastContaining?_append_cons hl' hafter', besides_append_cons hl hafter hpaths,
        besides_append_cons hl' hafter' hpaths']
      exact ⟨.some hR, List.rel_append hbefore hbehind⟩

/-- The best of levels that correspond member by member correspond. -/
theorem rel_foldl_keepBetter (better : Position → Position → Bool) {level level' : List Located}
    (h : List.Forall₂ R level level') :
    Option.Rel R (level.foldl (keepBetter better) none)
      (level'.foldl (keepBetter better) none) := by
  have hstart : ∀ {l l'}, R l l' → l'.start = l.start := fun hl => congrArg Range.start (hrange hl)
  refine List.rel_foldl (fun best best' hbest l l' hl => ?_) .none h
  cases hbest with
  | none => exact .some hl
  | some hb =>
      rw [keepBetter, keepBetter, hstart hl, hstart hb]
      split
      · exact .some hl
      · exact .some hb

end

/-! ## The searches -/

/-- The levels of a forest and of what it is pruned to, wherever they are. -/
def PrunedLevel (level level' : List Located) : Prop :=
  ∃ parent parent' symbols, level = navigable parent symbols ∧
    level' = navigable parent' (pruneForest symbols)

theorem range_of_pruned {l l' : Located} (h : l'.symbol = l.symbol.pruned) :
    l'.symbol.range = l.symbol.range := by
  rw [h]
  rfl

theorem PrunedLevel.forall₂ {level level' : List Located} (h : PrunedLevel level level') :
    List.Forall₂ (fun l l' => l'.symbol = l.symbol.pruned) level level' := by
  obtain ⟨parent, parent', symbols, rfl, rfl⟩ := h
  exact forall₂_navigable_pruneForest ..

theorem PrunedLevel.besides {level level' : List Located} (h : PrunedLevel level level')
    (position : Position) :
    Option.Rel (fun l l' => l'.symbol = l.symbol.pruned) (lastContaining? position level)
        (lastContaining? position level') ∧
      List.Forall₂ (fun l l' => l'.symbol = l.symbol.pruned) (besides position level)
        (besides position level') := by
  obtain ⟨parent, parent', symbols, rfl, rfl⟩ := h
  exact forall₂_besides range_of_pruned (forall₂_navigable_pruneForest ..)
    (Outline.pairwise_navigable ..) (Outline.pairwise_navigable ..)

theorem prunedLevel_members {l l' : Located} (h : l'.symbol = l.symbol.pruned) :
    PrunedLevel l.members l'.members :=
  ⟨l.path, l'.path, l.symbol.children, rfl, by rw [Located.members, h]; rfl⟩

theorem correspondence_prune (position : Position) :
    Correspondence position (fun l l' => l'.symbol = l.symbol.pruned) PrunedLevel where
  stops h := stops_congr (congrArg Symbol.selectionRange h).symm
    (prunedLevel_members h).forall₂.length_eq position
  members := prunedLevel_members
  last h := (h.besides position).1
  child h := rel_foldl_keepBetter range_of_pruned _ h.forall₂
  previous h := rel_foldl_keepBetter range_of_pruned _
    (forall₂_filter range_of_pruned (·.start < position) (h.besides position).2)
  next h := rel_foldl_keepBetter range_of_pruned _
    (forall₂_filter range_of_pruned (position < ·.start) (h.besides position).2)

/-! ## The targets -/

theorem flatten_pruneForest (symbols : List Symbol) :
    Symbol.flatten (pruneForest symbols) = (Symbol.flatten symbols).filter (·.isNavigable) := by
  induction symbols using Symbol.forest_induction with
  | nil => rfl
  | cons s rest ihChildren ihRest =>
      have hdetached : s.detached.isNavigable = s.isNavigable := rfl
      rw [pruneForest, pruneTree_eq, Symbol.flatten_eq_flatMap (_ ++ _), List.flatMap_append,
        ← Symbol.flatten_eq_flatMap, ← Symbol.flatten_eq_flatMap, ihRest, Symbol.flatten,
        Symbol.preorder_eq, List.cons_append, List.filter_cons, List.filter_append, ← ihChildren,
        hdetached]
      cases s.isNavigable with
      | true =>
          rw [if_pos rfl, if_pos rfl, Symbol.flatten, Symbol.preorder_eq, Symbol.flatten,
            List.append_nil, List.cons_append]
          rfl
      | false => rfl

/-- Nothing that folding asks about a definition depends on its children. -/
theorem flatMap_bodyLines_targets (o : Outline) (ranges : List FoldRange)
    (selections : List Selection) (options : FoldOptions) :
    ((o.targets.map (·.symbol)).filter (foldsSymbol selections options)).flatMap
        (bodyLines ranges) =
      ((o.targets.map (·.symbol.detached)).filter (foldsSymbol selections options)).flatMap
        (bodyLines ranges) := by
  rw [List.filter_map, List.filter_map, List.flatMap_map, List.flatMap_map]
  rfl

theorem planFolds_congr {o o' : Outline}
    (h : o.targets.map (·.symbol.detached) = o'.targets.map (·.symbol.detached))
    (ranges : List FoldRange) (selections : List Selection) (options : FoldOptions) :
    planFolds o ranges selections options = planFolds o' ranges selections options := by
  rw [planFolds, planFolds, flatMap_bodyLines_targets, flatMap_bodyLines_targets, h]

/-- Around every position, an outline and what it is pruned to show the same symbols, up to excluded
symbols inside of them, and they plan the same folds. What is left in the pruned outline are the
targets, in the same order. -/
theorem prune_transparent (o : Outline) :
    (∀ position, (resolve o.prune position).fields.map (·.map (·.symbol)) =
      (resolve o position).fields.map (·.map (·.symbol.pruned))) ∧
    (∀ ranges selections options,
      planFolds o.prune ranges selections options = planFolds o ranges selections options) ∧
    o.prune.flatten = o.flatten.filter (·.isNavigable) := by
  have hflatten : o.prune.flatten = o.flatten.filter (·.isNavigable) := flatten_pruneForest o.roots
  refine ⟨fun position => ?_, planFolds_congr ?_, hflatten⟩
  · have htop : PrunedLevel o.topLevel o.prune.topLevel := ⟨[], [], o.roots, rfl, rfl⟩
    have hfields := (correspondence_prune position).fields htop
    have heach : List.Forall₂ (· = ·)
        ((resolve o position).fields.map (·.map (·.symbol.pruned)))
        ((resolve o.prune position).fields.map (·.map (·.symbol))) := by
      rw [List.forall₂_map_left_iff, List.forall₂_map_right_iff]
      refine hfields.imp fun l? l'? hrel => ?_
      cases hrel with
      | none => rfl
      | some h => exact congrArg some h.symm
    rw [List.forall₂_eq_eq_eq] at heach
    exact heach.symm
  · rw [map_detached_targets, map_detached_targets, hflatten, List.filter_filter]
    simp only [Bool.and_self]

end OutlineNav
