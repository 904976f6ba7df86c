import Mathlib.Data.List.Forall2
import Mathlib.Data.List.Pairwise
import OutlineNav.Proofs.Correspondence
import OutlineNav.Proofs.Descent

/-!
# The order of siblings

A search scans the members of a level in the order they are listed in. Where the members of every
level lie apart, that order decides nothing: whatever way the sibling lists of an outline are put
into another order, at every depth, the same symbols are found around every position
(`resolve_reordered`).

A level of the reordered outline has the same members in another order, those from inside of
excluded symbols included (`reordered_exposed`), so its members lie apart as well. On such a level
at most one member contains the position, and no two members start at the same place: what is found
is told by the members alone (`Matched`).
-/

namespace OutlineNav

/-! ## Forests in another order -/

/-- The same forest with its sibling lists in another order, at every depth. -/
inductive Reordered : List Symbol → List Symbol → Prop
  | nil : Reordered [] []
  | cons {s t : Symbol} {rest rest' : List Symbol} (same : s.detached = t.detached)
      (children : Reordered s.children t.children) (siblings : Reordered rest rest') :
      Reordered (s :: rest) (t :: rest')
  | swap (s t : Symbol) (rest : List Symbol) : Reordered (s :: t :: rest) (t :: s :: rest)
  | trans {a b c : List Symbol} (left : Reordered a b) (right : Reordered b c) : Reordered a c

namespace Reordered

theorem refl (symbols : List Symbol) : Reordered symbols symbols := by
  induction symbols using Symbol.forest_induction with
  | nil => exact .nil
  | cons s rest ihChildren ihRest => exact .cons rfl ihChildren ihRest

theorem symm {a b : List Symbol} (h : Reordered a b) : Reordered b a := by
  induction h with
  | nil => exact .nil
  | cons same _ _ ihChildren ihSiblings => exact .cons same.symm ihChildren ihSiblings
  | swap s t rest => exact .swap t s rest
  | trans _ _ ihLeft ihRight => exact ihRight.trans ihLeft

theorem of_perm {a b : List Symbol} (h : a.Perm b) : Reordered a b := by
  induction h with
  | nil => exact .nil
  | cons s _ ih => exact .cons rfl (refl s.children) ih
  | swap s t rest => exact .swap t s rest
  | trans _ _ ihLeft ihRight => exact ihLeft.trans ihRight

theorem append_left (front : List Symbol) {a b : List Symbol} (h : Reordered a b) :
    Reordered (front ++ a) (front ++ b) := by
  induction front with
  | nil => exact h
  | cons s rest ih => exact .cons rfl (refl s.children) ih

theorem append {a b c d : List Symbol} (h : Reordered a b) (h' : Reordered c d) :
    Reordered (a ++ c) (b ++ d) := by
  refine .trans ?_ (h'.append_left b)
  induction h with
  | nil => exact refl c
  | cons same children _ _ ihSiblings => exact .cons same children ihSiblings
  | swap s t rest => exact .swap s t (rest ++ c)
  | trans _ _ ihLeft ihRight => exact ihLeft.trans ihRight

/-- Both forests have the same symbols on their first level. -/
theorem perm_detached {a b : List Symbol} (h : Reordered a b) :
    (a.map Symbol.detached).Perm (b.map Symbol.detached) := by
  induction h with
  | nil => exact .nil
  | cons same _ _ _ ihSiblings =>
      rw [List.map_cons, List.map_cons, same]
      exact ihSiblings.cons _
  | swap s t rest => exact .swap _ _ _
  | trans _ _ ihLeft ihRight => exact ihLeft.trans ihRight

theorem exists_of_mem {a b : List Symbol} (h : Reordered a b) :
    ∀ s ∈ a, ∃ t ∈ b, s.detached = t.detached ∧ Reordered s.children t.children := by
  induction h with
  | nil => exact nofun
  | cons same children _ _ ihSiblings =>
      refine List.forall_mem_cons.mpr ⟨⟨_, List.mem_cons_self .., same, children⟩, fun s hs => ?_⟩
      obtain ⟨t, ht, hst⟩ := ihSiblings s hs
      exact ⟨t, List.mem_cons_of_mem _ ht, hst⟩
  | swap s t rest =>
      intro u hu
      exact ⟨u, (List.Perm.swap t s rest).mem_iff.mp hu, rfl, refl u.children⟩
  | trans _ _ ihLeft ihRight =>
      intro s hs
      obtain ⟨t, ht, hst, hleft⟩ := ihLeft s hs
      obtain ⟨u, hu, htu, hright⟩ := ihRight t ht
      exact ⟨u, hu, hst.trans htu, hleft.trans hright⟩

end Reordered

/-! ## Levels in another order -/

/-- The symbols of a level, without their addresses. -/
def exposed (symbols : List Symbol) : List Symbol := (navigable [] symbols).map (·.symbol)

theorem map_symbol_navigableFrom (symbols : List Symbol) :
    ∀ (parent : SymbolPath) (index : Nat) (parent' : SymbolPath) (index' : Nat),
      (navigableFrom parent index symbols).map (·.symbol) =
        (navigableFrom parent' index' symbols).map (·.symbol) := by
  induction symbols using Symbol.forest_induction with
  | nil => intro _ _ _ _; rfl
  | cons s rest ihChildren ihRest =>
      intro parent index parent' index'
      rw [navigableFrom, navigableFrom, List.map_append, List.map_append, navigableAt_eq,
        navigableAt_eq, ihRest parent (index + 1) parent' (index' + 1)]
      split
      · rfl
      · rw [ihChildren]

theorem map_symbol_navigable (parent : SymbolPath) (symbols : List Symbol) :
    (navigable parent symbols).map (·.symbol) = exposed symbols :=
  map_symbol_navigableFrom ..

theorem exposed_cons (s : Symbol) (rest : List Symbol) :
    exposed (s :: rest) = (if s.isNavigable then [s] else exposed s.children) ++ exposed rest := by
  rw [exposed, navigable, navigableFrom, List.map_append, navigableAt_eq,
    map_symbol_navigableFrom rest _ _ [] 0]
  split
  · rfl
  · rw [map_symbol_navigableFrom s.children _ _ [] 0]
    rfl

/-- A level has the same symbols, in another order. -/
theorem reordered_exposed {a b : List Symbol} (h : Reordered a b) :
    Reordered (exposed a) (exposed b) := by
  induction h with
  | nil => exact .nil
  | @cons s t rest rest' same children _ ihChildren ihSiblings =>
      have hnavigable : s.isNavigable = t.isNavigable :=
        show s.detached.isNavigable = t.detached.isNavigable from congrArg Symbol.isNavigable same
      rw [exposed_cons, exposed_cons, hnavigable]
      refine .append ?_ ihSiblings
      split
      · exact .cons same children .nil
      · exact ihChildren
  | swap s t rest =>
      rw [exposed_cons, exposed_cons, exposed_cons, exposed_cons]
      exact .of_perm (List.perm_append_comm_assoc ..)
  | trans _ _ ihLeft ihRight => exact ihLeft.trans ihRight

/-! ## Levels that lie apart -/

theorem eq_of_path_of_pairwise {level : List Located}
    (h : level.Pairwise fun a b => a.path < b.path) {a b : Located} (ha : a ∈ level)
    (hb : b ∈ level) (hpath : a.path = b.path) : a = b := by
  have hne : level.Pairwise fun a b => a.path ≠ b.path := by
    refine h.imp fun {a b} hlt heq => ?_
    rw [heq] at hlt
    exact List.lt_irrefl _ hlt
  have : Std.Symm fun a b : Located => a.path ≠ b.path := ⟨fun _ _ => Ne.symm⟩
  by_contra hab
  exact hne.forall ha hb hab hpath

/-- On a level that lies apart, the last member that contains the position is the only one. -/
theorem Apart.besides_eq {level : List Located} (h : Apart level)
    (hpaths : level.Pairwise fun a b => a.path < b.path) (position : Position) :
    besides position level = level.filter fun l => !l.symbol.range.contains position := by
  rw [besides]
  refine List.filter_congr fun m hm => ?_
  cases hlast : lastContaining? position level with
  | none => rw [lastContaining?_eq_none.mp hlast m hm]; rfl
  | some c =>
      have hc := mem_of_lastContaining? hlast
      obtain ⟨-, -, -, hin, -⟩ := exists_split_of_lastContaining? hlast
      rw [Option.all_some, Bool.eq_iff_iff, bne_iff_ne, Bool.not_eq_true']
      constructor
      · intro hne
        by_contra hinm
        exact hne (congrArg Located.path
          (h.eq_of_contains hm hc (by simpa using hinm) hin))
      · intro hout heq
        rw [eq_of_path_of_pairwise hpaths hm hc heq, hin] at hout
        cases hout

theorem Apart.lastContaining?_eq_earliest {level : List Located} (h : Apart level)
    (position : Position) :
    lastContaining? position level =
      earliest (level.filter (·.symbol.range.contains position)) := by
  cases hearliest : earliest (level.filter (·.symbol.range.contains position)) with
  | none =>
      rw [lastContaining?, eq_nil_of_foldl isPreference_earlier hearliest, List.getLast?_nil]
  | some l =>
      obtain ⟨hl, hin⟩ := List.mem_filter.mp (earliest_eq_some hearliest).1
      exact h.lastContaining?_eq hl hin

theorem apart_of_reordered {level level' : List Located} (h : Apart level)
    (hpaths : level.Pairwise fun a b => a.path < b.path)
    (hreordered : Reordered (level.map (·.symbol)) (level'.map (·.symbol))) : Apart level' := by
  have hperm : (level.map (·.symbol.range)).Perm (level'.map (·.symbol.range)) := by
    have hranges := hreordered.perm_detached.map Symbol.range
    simp only [List.map_map] at hranges
    exact hranges
  have hpairwise : (level.map (·.symbol.range)).Pairwise fun r s =>
      ∀ position, ¬(r.contains position ∧ s.contains position) := by
    rw [List.pairwise_map]
    refine hpaths.imp_of_mem fun {a b} ha hb hlt => h.apart a ha b hb ?_
    rintro rfl
    exact List.lt_irrefl _ hlt
  rw [hperm.pairwise_iff fun hrs position hsr => hrs position hsr.symm, List.pairwise_map]
    at hpairwise
  constructor
  · intro l' hl'
    obtain ⟨l, hl, hrange⟩ := List.mem_map.mp (hperm.mem_iff.mpr (List.mem_map_of_mem hl'))
    rw [Located.start, ← hrange]
    exact h.start_le_stop l hl
  · intro a ha b hb hne
    have : Std.Symm fun a b : Located =>
        ∀ position, ¬(a.symbol.range.contains position ∧ b.symbol.range.contains position) :=
      ⟨fun _ _ hab position hba => hab position hba.symm⟩
    exact hpairwise.forall ha hb hne

/-! ## Members told by themselves -/

/-- Each member on one side has its counterpart on the other, and no two members of the right side
start at the same place. -/
structure Matched (R : Located → Located → Prop) (level level' : List Located) : Prop where
  left : ∀ l ∈ level, ∃ l' ∈ level', R l l'
  right : ∀ l' ∈ level', ∃ l ∈ level, R l l'
  start_inj : ∀ a ∈ level', ∀ b ∈ level', a.start = b.start → a = b

namespace Matched

variable {R : Located → Located → Prop} {level level' : List Located}

theorem eq_nil_right (h : Matched R [] level') : level' = [] := by
  refine List.eq_nil_iff_forall_not_mem.mpr fun l' hl' => ?_
  obtain ⟨l, hl, -⟩ := h.right l' hl'
  cases hl

variable (h : Matched R level level')
  (hrange : ∀ {l l'}, R l l' → l'.symbol.range = l.symbol.range)

include h hrange

theorem filter (p : Range → Bool) :
    Matched R (level.filter (p ·.symbol.range)) (level'.filter (p ·.symbol.range)) := by
  refine ⟨?_, ?_, fun a ha b hb =>
    h.start_inj a (List.mem_of_mem_filter ha) b (List.mem_of_mem_filter hb)⟩
  · intro l hl
    obtain ⟨hl, hp⟩ := List.mem_filter.mp hl
    obtain ⟨l', hl', hR⟩ := h.left l hl
    exact ⟨l', List.mem_filter.mpr ⟨hl', by rwa [hrange hR]⟩, hR⟩
  · intro l' hl'
    obtain ⟨hl', hp⟩ := List.mem_filter.mp hl'
    obtain ⟨l, hl, hR⟩ := h.right l' hl'
    exact ⟨l, List.mem_filter.mpr ⟨hl, by rwa [← hrange hR]⟩, hR⟩

theorem rel_best {better : Position → Position → Bool} (hbetter : IsPreference better) :
    Option.Rel R (level.foldl (keepBetter better) none)
      (level'.foldl (keepBetter better) none) := by
  cases hfound : level.foldl (keepBetter better) none with
  | none =>
      rw [eq_nil_of_foldl hbetter hfound] at h
      rw [h.eq_nil_right]
      exact .none
  | some l =>
      obtain ⟨hl, hbest⟩ := foldl_eq_some hbetter hfound
      obtain ⟨l', hl', hR⟩ := h.left l hl
      have hfound' : level'.foldl (keepBetter better) none = some l' := by
        refine (foldl_eq_some_iff hbetter h.start_inj).mpr ⟨hl', fun m' hm' => ?_⟩
        obtain ⟨m, hm, hRm⟩ := h.right m' hm'
        rw [Located.start, Located.start, hrange hR, hrange hRm]
        exact hbest m hm
      rw [hfound']
      exact .some hR

end Matched

/-! ## The searches -/

/-- A target and a symbol of the reordered outline that differs from it in the order of its contents
only. -/
structure SameButOrder (o : Outline) (l l' : Located) : Prop where
  target : o.IsTarget l
  symbol : l.symbol.detached = l'.symbol.detached
  children : Reordered l.symbol.children l'.symbol.children

/-- A level of the outline and one of the reordered outline. -/
structure ReorderedLevel (o : Outline) (level level' : List Located) : Prop where
  isLevel : ∃ owner, o.IsOwner owner ∧ level = o.levelBelow owner
  paths : level'.Pairwise fun a b => a.path < b.path
  reordered : Reordered (level.map (·.symbol)) (level'.map (·.symbol))

theorem SameButOrder.range_eq {o : Outline} {l l' : Located} (h : SameButOrder o l l') :
    l'.symbol.range = l.symbol.range :=
  show l'.symbol.detached.range = l.symbol.detached.range from congrArg Symbol.range h.symbol.symm

theorem SameButOrder.members {o : Outline} {l l' : Located} (h : SameButOrder o l l') :
    ReorderedLevel o l.members l'.members := by
  refine ⟨⟨some l, h.target.isOwner, rfl⟩, Outline.pairwise_navigable .., ?_⟩
  rw [Located.members, Located.members, map_symbol_navigable, map_symbol_navigable]
  exact reordered_exposed h.children

theorem SameButOrder.stops_eq {o : Outline} {l l' : Located} (h : SameButOrder o l l')
    (position : Position) : l.stops position = l'.stops position := by
  have hname : l.symbol.selectionRange = l'.symbol.selectionRange :=
    show l.symbol.detached.selectionRange = l'.symbol.detached.selectionRange from
      congrArg Symbol.selectionRange h.symbol
  have hlength : l.members.length = l'.members.length := by
    simpa using h.members.reordered.perm_detached.length_eq
  exact stops_congr hname hlength position

section

variable {o : Outline} (h : ∀ owner, o.IsOwner owner → Apart (o.levelBelow owner))

include h

theorem ReorderedLevel.apart {level level' : List Located}
    (hlevel : ReorderedLevel o level level') :
    Apart level ∧ Apart level' := by
  obtain ⟨⟨owner, howner, rfl⟩, -, hreordered⟩ := hlevel
  exact ⟨h owner howner,
    apart_of_reordered (h owner howner) (o.pairwise_levelBelow owner) hreordered⟩

theorem ReorderedLevel.matched {level level' : List Located}
    (hlevel : ReorderedLevel o level level') : Matched (SameButOrder o) level level' := by
  obtain ⟨-, hapart'⟩ := hlevel.apart h
  obtain ⟨⟨owner, howner, rfl⟩, -, hreordered⟩ := hlevel
  refine ⟨?_, ?_, fun a ha b hb => hapart'.eq_of_start ha hb⟩
  · intro l hl
    obtain ⟨s, hs, hsymbol, hchildren⟩ := hreordered.exists_of_mem _ (List.mem_map_of_mem hl)
    obtain ⟨l', hl', rfl⟩ := List.mem_map.mp hs
    exact ⟨l', hl', (howner.mem_levelBelow.mp hl).1, hsymbol, hchildren⟩
  · intro l' hl'
    obtain ⟨s, hs, hsymbol, hchildren⟩ := hreordered.symm.exists_of_mem _ (List.mem_map_of_mem hl')
    obtain ⟨l, hl, rfl⟩ := List.mem_map.mp hs
    exact ⟨l, hl, (howner.mem_levelBelow.mp hl).1, hsymbol.symm, hchildren.symm⟩

theorem ReorderedLevel.besides {level level' : List Located}
    (hlevel : ReorderedLevel o level level') (position : Position) :
    Matched (SameButOrder o) (besides position level) (besides position level') := by
  obtain ⟨hapart, hapart'⟩ := hlevel.apart h
  have hpaths : level.Pairwise fun a b => a.path < b.path := by
    obtain ⟨owner, -, rfl⟩ := hlevel.isLevel
    exact o.pairwise_levelBelow owner
  rw [hapart.besides_eq hpaths, hapart'.besides_eq hlevel.paths]
  exact (hlevel.matched h).filter SameButOrder.range_eq fun r => !r.contains position

theorem ReorderedLevel.last {level level' : List Located}
    (hlevel : ReorderedLevel o level level') (position : Position) :
    Option.Rel (SameButOrder o) (lastContaining? position level)
      (lastContaining? position level') := by
  obtain ⟨hapart, hapart'⟩ := hlevel.apart h
  rw [hapart.lastContaining?_eq_earliest, hapart'.lastContaining?_eq_earliest]
  exact ((hlevel.matched h).filter SameButOrder.range_eq
    (·.contains position)).rel_best SameButOrder.range_eq isPreference_earlier

theorem correspondence_reordered (position : Position) :
    Correspondence position (SameButOrder o) (ReorderedLevel o) where
  stops hl := hl.stops_eq position
  members := SameButOrder.members
  last hlevel := hlevel.last h position
  child hlevel := (hlevel.matched h).rel_best SameButOrder.range_eq isPreference_earlier
  previous hlevel := ((hlevel.besides h position).filter SameButOrder.range_eq
    (·.start < position)).rel_best SameButOrder.range_eq isPreference_later
  next hlevel := ((hlevel.besides h position).filter SameButOrder.range_eq
    (position < ·.start)).rel_best SameButOrder.range_eq isPreference_earlier

end

/-- Where the members of every level lie apart, the order in which siblings are listed does not
matter: in the outline and in the outline with its sibling lists in another order, at any depth, the
same symbols are found around a position, up to the order of their contents. -/
theorem resolve_reordered {o o' : Outline}
    (h : ∀ owner, o.IsOwner owner → Apart (o.levelBelow owner))
    (hreordered : Reordered o.roots o'.roots) (position : Position) :
    List.Forall₂ (Option.Rel fun l l' => l.symbol.detached = l'.symbol.detached ∧
        Reordered l.symbol.children l'.symbol.children)
      (resolve o position).fields (resolve o' position).fields := by
  have htop : ReorderedLevel o o.topLevel o'.topLevel := by
    refine ⟨⟨none, o.isOwner_none, rfl⟩, Outline.pairwise_navigable .., ?_⟩
    rw [Outline.topLevel, Outline.topLevel, map_symbol_navigable, map_symbol_navigable]
    exact reordered_exposed hreordered
  refine ((correspondence_reordered h position).fields htop).imp fun l? l'? hrel => ?_
  cases hrel with
  | none => exact .none
  | some hl => exact .some ⟨hl.symbol, hl.children⟩

/-- The sample with its roots and the contents of the class in another order. -/
def Outline.sampleReordered : Outline :=
  ⟨[.block "main" "" .function 120 130 [],
    .block "Shop" "" .classType 0 100
      [.block "sell" "" .method 30 60 [.block "total" "" .function 40 50 []],
        .block "Item" "declaration" .struct 5 20 [.block "price" "" .field 6 8 []]]]⟩

/-- Between the forward declaration and the method, the field from inside of the declaration is
found, whether the declaration is listed before the method or behind it. -/
theorem resolve_reordered_sample :
    Outline.sample.Orderly ∧ Reordered Outline.sample.roots Outline.sampleReordered.roots ∧
      ∃ l l', (resolve Outline.sample ⟨25, 0⟩).previous = some l ∧
        (resolve Outline.sampleReordered ⟨25, 0⟩).previous = some l' ∧
        l.path = [0, 0, 0] ∧ l'.path = [1, 1, 0] ∧ l.symbol.detached = l'.symbol.detached := by
  have h : Outline.sample.Orderly := by decide
  have hreordered : Reordered Outline.sample.roots Outline.sampleReordered.roots :=
    .trans (.swap _ _ _) (.cons rfl (.refl _) (.cons rfl (.swap _ _ _) .nil))
  have hprevious : (resolve Outline.sample ⟨25, 0⟩).previous =
      some ⟨[0, 0, 0], .block "price" "" .field 6 8 []⟩ := by
    rw [resolve_of_landWithin rfl]
    decide
  have hprevious' : (resolve Outline.sampleReordered ⟨25, 0⟩).previous =
      some ⟨[1, 1, 0], .block "price" "" .field 6 8 []⟩ := by
    rw [resolve_of_landWithin rfl]
    decide
  have hfields := resolve_reordered (fun _ howner => h.apart_levelBelow howner) hreordered ⟨25, 0⟩
  simp only [Nearest.fields, List.forall₂_cons] at hfields
  obtain ⟨-, -, -, hrel, -⟩ := hfields
  rw [hprevious, hprevious', Option.rel_some_some] at hrel
  exact ⟨h, hreordered, _, _, hprevious, hprevious', rfl, rfl, hrel.1⟩

end OutlineNav
