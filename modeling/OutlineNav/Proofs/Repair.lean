import OutlineNav.Proofs.Containment
import OutlineNav.Proofs.Cutting

/-!
# Containment repair undoes every cutting

In a containment tree the ranges tell the ancestors of each symbol. Symbols cut out of such a tree,
in whatever order, are all put back under their parents.

The pieces come back with those in fewer containers first, that is, ancestors before descendants.
The invariant of the run is that the tree so far is the arrangement in which the pieces placed are
back: when the turn of a piece comes, all its ancestors are in place, so the descent along the first
container of each level goes through exactly them (`attach_arrangeLevel`) and the whole subtree of
the piece is still its own. That siblings keep their order is the stability of the sort: they lie in
the same containers.
-/

namespace OutlineNav

namespace Outline

/-- Of two symbols, the range of one strictly contains that of the other exactly if it is an
ancestor. -/
def IsContainmentTree (o : Outline) : Prop :=
  ∀ p q u v, o.get? p = some u → o.get? q = some v → p ≠ q →
    (u.range.strictlyContains v.range = true ↔ p <+: q)

theorem isContainmentTree_iff {o : Outline} :
    o.IsContainmentTree ↔ ∀ l ∈ o.located, ∀ m ∈ o.located, l.path ≠ m.path →
      (l.symbol.range.strictlyContains m.symbol.range = true ↔ l.path <+: m.path) := by
  constructor
  · intro h l hl m hm
    exact h _ _ _ _ (mem_located.mp hl) (mem_located.mp hm)
  · intro h p q u v hu hv
    exact h ⟨p, u⟩ (mem_located.mpr hu) ⟨q, v⟩ (mem_located.mpr hv)

instance (o : Outline) : Decidable o.IsContainmentTree := decidable_of_iff' _ isContainmentTree_iff

end Outline

/-! ## Putting one piece back -/

section Insertion

variable {o : Outline} {kids kids' : Arrangement} {parent : SymbolPath} {i : Nat} {t : Symbol}

theorem arrangeLevel_childrenAt (kids : Arrangement) (path : SymbolPath) :
    arrangeLevel kids path (o.childrenAt path) =
      (kids path).filterMap fun j => (o.get? (path ++ [j])).map (arrangeAt kids (path ++ [j])) := by
  simp only [arrangeLevel_eq, Outline.get?_concat]

/-- Members other than the ancestor of the piece do not contain it. -/
theorem not_strictlyContains_of_mem_arranged (ho : o.IsContainmentTree)
    (ht : o.get? (parent ++ [i]) = some t) {path : SymbolPath} {indices : List Nat}
    (haway : ∀ j ∈ indices, path ++ [j] <+: parent ++ [i] → path ++ [j] = parent ++ [i]) :
    ∀ u ∈ indices.filterMap fun j => (o.get? (path ++ [j])).map (arrangeAt kids (path ++ [j])),
      u.range.strictlyContains t.range = false := by
  intro u hu
  obtain ⟨j, hj, hu⟩ := List.mem_filterMap.mp hu
  obtain ⟨v, hv, rfl⟩ := Option.map_eq_some_iff.mp hu
  rw [arrangeAt_eq]
  by_cases heq : path ++ [j] = parent ++ [i]
  · rw [heq, ht] at hv
    rw [Option.some.inj hv, Range.strictlyContains_self]
  · rw [Bool.eq_false_iff]
    intro hcontains
    exact heq (haway j hj ((ho _ _ _ _ hv ht heq).mp hcontains))

/-- A symbol off the way to `parent` is arranged as before. -/
theorem arrangeAt_aside (hother : ∀ path, path ≠ parent → kids' path = kids path)
    {path : SymbolPath} (h : ¬path <+: parent) : arrangeAt kids path = arrangeAt kids' path := by
  funext s
  refine arrangeAt_congr (fun longer hlonger => (hother longer ?_).symm) s
  rintro rfl
  exact h hlonger

theorem filterMap_arrangeAt_aside (hother : ∀ path, path ≠ parent → kids' path = kids path)
    {path : SymbolPath} (indices : List Nat) (haside : ∀ j ∈ indices, ¬path ++ [j] <+: parent) :
    (indices.filterMap fun j => (o.get? (path ++ [j])).map (arrangeAt kids (path ++ [j]))) =
      indices.filterMap fun j => (o.get? (path ++ [j])).map (arrangeAt kids' (path ++ [j])) :=
  List.filterMap_congr fun j hj => by rw [arrangeAt_aside hother (haside j hj)]

theorem exists_container (ho : o.IsContainmentTree) (ht : o.get? (parent ++ [i]) = some t)
    {path : SymbolPath} (hne : path ≠ []) (hpre : path <+: parent) :
    ∃ u, o.get? path = some u ∧ u.range.strictlyContains t.range = true := by
  have hlonger : path <+: parent ++ [i] := List.prefix_append_of_prefix hpre
  obtain ⟨u, hu⟩ := Option.isSome_iff_exists.mp
    (Outline.get?_isSome_of_prefix hne hlonger (Option.isSome_of_eq_some ht))
  refine ⟨u, hu, (ho _ _ _ _ hu ht ?_).mpr hlonger⟩
  rintro rfl
  exact SymbolPath.concat_not_prefix_self parent i hpre

/-- Putting the symbol at `parent ++ [i]` into an arrangement that has all its ancestors in place
makes it the last child of its parent. -/
theorem attach_arrangeLevel (ho : o.IsContainmentTree) (ht : o.get? (parent ++ [i]) = some t)
    (hparent : kids' parent = kids parent ++ [i])
    (hother : ∀ path, path ≠ parent → kids' path = kids path)
    (hplaced : ∀ path j, path ++ [j] <+: parent → j ∈ kids path)
    (hnodup : ∀ path, (kids path).Nodup) (rest : SymbolPath) :
    ∀ path, path ++ rest = parent →
      Outline.attach (arrangeAt kids' (parent ++ [i]) t)
          (arrangeLevel kids path (o.childrenAt path)) =
        arrangeLevel kids' path (o.childrenAt path) := by
  have hrange : (arrangeAt kids' (parent ++ [i]) t).range = t.range := by rw [arrangeAt_eq]
  induction rest with
  | nil =>
      intro path hpath
      rw [List.append_nil] at hpath
      subst hpath
      have hsame := filterMap_arrangeAt_aside (o := o) hother (kids path) fun j _ =>
        SymbolPath.concat_not_prefix_self path j
      rw [Outline.attach_eq_append, arrangeLevel_childrenAt, arrangeLevel_childrenAt, hparent,
        List.filterMap_append, hsame]
      · simp [ht]
      · rw [arrangeLevel_childrenAt, hrange]
        refine not_strictlyContains_of_mem_arranged ho ht fun j _ hj => ?_
        exact hj.eq_of_length (by simp)
  | cons j rest ih =>
      intro path hpath
      have hpre : path ++ [j] <+: parent := ⟨rest, by rw [← hpath]; simp⟩
      -- among the members of this level, the ancestor of the piece is the one at `j`
      have honly : ∀ k, path ++ [k] <+: parent ++ [i] → k = j := by
        intro k hk
        rw [← hpath, List.append_assoc, List.prefix_append_right_inj] at hk
        simpa using hk
      obtain ⟨before, after, hkids, hbefore⟩ := List.eq_append_cons_of_mem (hplaced path j hpre)
      have hafter : j ∉ after := by
        have := hnodup path
        rw [hkids, List.nodup_append] at this
        exact (List.nodup_cons.mp this.2.1).1
      have hsame := fun (indices : List Nat) (hj : j ∉ indices) =>
        filterMap_arrangeAt_aside (o := o) hother indices fun k hk hpre' =>
          hj (honly k (List.prefix_append_of_prefix hpre') ▸ hk)
      obtain ⟨u, hu, hcontains⟩ := exists_container ho ht (by simp) hpre
      have hbelow := ih (path ++ [j]) (by rw [← hpath]; simp)
      rw [Outline.childrenAt_of_get? hu] at hbelow
      have hne : path ≠ parent := by
        rintro rfl
        exact SymbolPath.concat_not_prefix_self path j hpre
      rw [arrangeLevel_childrenAt, arrangeLevel_childrenAt, hother path hne, hkids,
        List.filterMap_append, List.filterMap_append, List.filterMap_cons, List.filterMap_cons, hu,
        hsame before hbefore, hsame after hafter]
      simp only [Option.map_some]
      rw [Outline.attach_append_cons, arrangeAt_eq kids, arrangeAt_eq kids' _ u, ← hbelow]
      · rw [hrange, ← hsame before hbefore]
        exact not_strictlyContains_of_mem_arranged ho ht fun k hk hpre' =>
          absurd (honly k hpre' ▸ hk) hbefore
      · rw [hrange, arrangeAt_eq]
        exact hcontains

end Insertion

/-! ## The order of the run -/

namespace Cutting

variable {o : Outline} (c : Cutting o)

/-- One piece lies strictly inside another exactly if it was cut out from below it. -/
theorem strictlyContains_piece (ho : o.IsContainmentTree) {p q : SymbolPath} (hp : p ∈ c.order)
    (hq : q ∈ c.order) :
    (c.piece p).range.strictlyContains (c.piece q).range = true ↔ p ≠ q ∧ p <+: q := by
  obtain ⟨u, hu⟩ := Option.isSome_iff_exists.mp (c.located p hp)
  obtain ⟨v, hv⟩ := Option.isSome_iff_exists.mp (c.located q hq)
  rw [c.range_piece hu, c.range_piece hv]
  by_cases hne : p = q
  · subst hne
    obtain rfl := Option.some.inj (hu.symm.trans hv)
    simp [Range.strictlyContains_self]
  · rw [ho _ _ _ _ hu hv hne]
    simp [hne]

/-- How many pieces strictly contain the piece at `path`. -/
def depth (path : SymbolPath) : Nat := Outline.containerCount c.pieces (c.piece path)

theorem depth_eq_countP (path : SymbolPath) :
    c.depth path =
      c.order.countP fun p => (c.piece p).range.strictlyContains (c.piece path).range := by
  rw [depth, Outline.containerCount, pieces_eq_map, List.countP_map]
  rfl

theorem depth_lt (ho : o.IsContainmentTree) {p q : SymbolPath} (hp : p ∈ c.order)
    (hq : q ∈ c.order) (hne : p ≠ q) (hpre : p <+: q) : c.depth p < c.depth q := by
  refine Outline.containerCount_lt ?_ ((c.strictlyContains_piece ho hp hq).mpr ⟨hne, hpre⟩)
  rw [pieces_eq_map]
  exact List.mem_map_of_mem hp

/-- Siblings lie in the same pieces. -/
theorem depth_siblings (ho : o.IsContainmentTree) {parent : SymbolPath} {i j : Nat}
    (hi : parent ++ [i] ∈ c.order) (hj : parent ++ [j] ∈ c.order) :
    c.depth (parent ++ [i]) = c.depth (parent ++ [j]) := by
  have hiff : ∀ k, parent ++ [k] ∈ c.order → ∀ p ∈ c.order,
      ((c.piece p).range.strictlyContains (c.piece (parent ++ [k])).range = true ↔
        p <+: parent) := by
    intro k hk p hp
    rw [c.strictlyContains_piece ho hp hk, List.prefix_concat_iff]
    refine ⟨fun h => h.2.resolve_left h.1, fun h => ⟨?_, .inr h⟩⟩
    rintro rfl
    exact SymbolPath.concat_not_prefix_self parent k h
  rw [depth_eq_countP, depth_eq_countP]
  exact List.countP_congr fun p hp => (hiff i hi p hp).trans (hiff j hj p hp).symm

theorem depth_eq_zero_iff (ho : o.IsContainmentTree) {path : SymbolPath} (h : path ∈ c.order) :
    c.depth path = 0 ↔ path.length = 1 := by
  rw [depth_eq_countP, List.countP_eq_zero]
  constructor
  · intro hzero
    match path, c.not_nil_of_mem h with
    | [i], _ => rfl
    | i :: j :: rest, _ =>
        have hroot : [i] ∈ c.order := by
          have hsome : (o.get? ([] ++ [i])).isSome :=
            Outline.get?_isSome_of_prefix (by simp) (by simp) (c.located _ h)
          rw [Outline.get?_concat] at hsome
          exact c.roots i (by simpa [Outline.childrenAt] using hsome)
        exact absurd ((c.strictlyContains_piece ho hroot h).mpr (by simp)) (hzero [i] hroot)
  · intro hlength p hp hcontains
    obtain ⟨hne, hpre⟩ := (c.strictlyContains_piece ho hp h).mp hcontains
    have := List.length_pos_of_ne_nil (c.not_nil_of_mem hp)
    exact hne (hpre.eq_of_length_le (by omega))

/-- The addresses of the pieces that stay roots. -/
def settled : List SymbolPath := c.order.filter fun path => c.depth path == 0

/-- The addresses of the pieces that move, in the order in which they do. -/
def moving : List SymbolPath :=
  (c.order.filter fun path => c.depth path != 0).mergeSort fun p q => c.depth p ≤ c.depth q

theorem stayingRoots_pieces : Outline.stayingRoots c.pieces = c.settled.map c.piece :=
  (congrArg (List.filter _) c.pieces_eq_map).trans List.filter_map

theorem movingRoots_pieces : Outline.movingRoots c.pieces = c.moving.map c.piece := by
  have hfilter : (c.pieces.filter fun s => Outline.containerCount c.pieces s != 0) =
      (c.order.filter fun path => c.depth path != 0).map c.piece :=
    (congrArg (List.filter _) c.pieces_eq_map).trans List.filter_map
  rw [Outline.movingRoots, hfilter, moving]
  symm
  apply List.map_mergeSort
  intro p _ q _
  rfl

theorem mem_settled {path : SymbolPath} :
    path ∈ c.settled ↔ path ∈ c.order ∧ c.depth path = 0 := by
  simp [settled]

theorem mem_moving {path : SymbolPath} :
    path ∈ c.moving ↔ path ∈ c.order ∧ c.depth path ≠ 0 := by
  simp [moving]

theorem pairwise_moving : c.moving.Pairwise fun p q => c.depth p ≤ c.depth q :=
  Outline.pairwise_mergeSort_le c.depth _

theorem nodup_settled_append_moving : (c.settled ++ c.moving).Nodup :=
  (Outline.filter_append_mergeSort_perm c.depth c.order _).nodup_iff.mpr c.nodup

/-- Everything in fewer pieces than the next one to move has been placed. -/
theorem mem_placed_of_depth_lt {placed rest : List SymbolPath} {p q : SymbolPath}
    (hsplit : c.moving = placed ++ q :: rest) (hp : p ∈ c.order) (h : c.depth p < c.depth q) :
    p ∈ c.settled ++ placed := by
  by_cases hzero : c.depth p = 0
  · exact List.mem_append_left _ (c.mem_settled.mpr ⟨hp, hzero⟩)
  · have hsorted := c.pairwise_moving
    have hmem := c.mem_moving.mpr ⟨hp, hzero⟩
    rw [hsplit, List.pairwise_append, List.pairwise_cons] at hsorted
    rw [hsplit, List.mem_append, List.mem_cons] at hmem
    rcases hmem with hmem | rfl | hmem
    · exact List.mem_append_right _ hmem
    · omega
    · have := hsorted.2.1.1 p hmem
      omega

/-- Nothing in more pieces than the next one to move has been placed. -/
theorem depth_le_of_mem_placed {placed rest : List SymbolPath} {p q : SymbolPath}
    (hsplit : c.moving = placed ++ q :: rest) (h : p ∈ c.settled ++ placed) :
    p ∈ c.order ∧ c.depth p ≤ c.depth q := by
  rcases List.mem_append.mp h with h | h
  · obtain ⟨hp, hzero⟩ := c.mem_settled.mp h
    exact ⟨hp, by omega⟩
  · have hsorted := c.pairwise_moving
    have hmem : p ∈ c.moving := by rw [hsplit]; exact List.mem_append_left _ h
    rw [hsplit, List.pairwise_append] at hsorted
    exact ⟨(c.mem_moving.mp hmem).1, hsorted.2.2 p h q (List.mem_cons_self ..)⟩

/-! ## The run -/

theorem nodup_putBack {placed : List SymbolPath} (hnodup : placed.Nodup)
    (hsub : ∀ p ∈ placed, p ∈ c.order) (path : SymbolPath) : (c.putBack placed path).Nodup := by
  refine List.nodup_append.mpr ⟨List.nodup_range.filter _, nodup_indicesAmong hnodup path, ?_⟩
  rintro i hi j hj rfl
  exact (c.mem_kept.mp hi).2 (hsub _ (mem_indicesAmong.mp hj))

/-- Before anything moved: the pieces of the roots, in their order. -/
theorem arrangeLevel_putBack_settled (ho : o.IsContainmentTree) :
    arrangeLevel (c.putBack c.settled) [] o.roots = c.settled.map c.piece := by
  have hroot : ∀ path ∈ c.settled, ∃ i, path = [] ++ [i] := by
    intro path hpath
    obtain ⟨hmem, hzero⟩ := c.mem_settled.mp hpath
    exact List.length_eq_one_iff.mp ((c.depth_eq_zero_iff ho hmem).mp hzero)
  have hinside : ∀ i longer, [] ++ [i] <+: longer → c.putBack c.settled longer = c.kept longer := by
    intro i longer hlonger
    rw [putBack, List.append_right_eq_self]
    refine List.eq_nil_iff_forall_not_mem.mpr fun j hj => ?_
    obtain ⟨k, hk⟩ := hroot _ (mem_indicesAmong.mp hj)
    have hlength := hlonger.length_le
    have hk := congrArg List.length hk
    simp only [List.length_append, List.length_nil, List.length_singleton] at hlength hk
    omega
  rw [show o.roots = o.childrenAt [] from rfl, arrangeLevel_childrenAt, putBack, kept_nil,
    List.nil_append, indicesAmong, List.filterMap_filterMap,
    List.filterMap_eq_map_iff_forall_eq_some]
  intro path hpath
  obtain ⟨i, rfl⟩ := hroot path hpath
  obtain ⟨s, hs⟩ := Option.isSome_iff_exists.mp (c.located _ (c.mem_settled.mp hpath).1)
  rw [SymbolPath.indexIn?_eq_some.mpr rfl, Option.bind_some, hs, Option.map_some,
    c.piece_of_get? hs]
  exact congrArg some (arrangeAt_congr (hinside i) s)

theorem putBack_append (placed more : List SymbolPath) (parent : SymbolPath) :
    c.putBack (placed ++ more) parent = c.putBack placed parent ++ indicesAmong more parent := by
  rw [putBack, putBack, indicesAmong_append, List.append_assoc]

section Step

variable {placed rest : List SymbolPath} {path : SymbolPath}
  (hsplit : c.moving = placed ++ path :: rest)

include hsplit

/-- The ancestors of the next piece to move are in place. -/
theorem mem_putBack_of_ancestor (ho : o.IsContainmentTree) {above : SymbolPath} {j : Nat}
    (hpre : above ++ [j] <+: path) (hne : above ++ [j] ≠ path) :
    j ∈ c.putBack (c.settled ++ placed) above := by
  have hpath : path ∈ c.order := (c.mem_moving.mp (by rw [hsplit]; simp)).1
  have hsome := Outline.get?_isSome_of_prefix (by simp) hpre (c.located path hpath)
  by_cases hcut : above ++ [j] ∈ c.order
  · have hplaced := c.mem_placed_of_depth_lt hsplit hcut (c.depth_lt ho hcut hpath hne hpre)
    exact List.mem_append_right _ (mem_indicesAmong.mpr hplaced)
  · exact List.mem_append_left _ (c.mem_kept.mpr ⟨hsome, hcut⟩)

/-- Nothing has been put back into the next piece to move. -/
theorem indicesAmong_below_eq_nil (ho : o.IsContainmentTree) {below : SymbolPath}
    (hpre : path <+: below) : indicesAmong (c.settled ++ (placed ++ [path])) below = [] := by
  have hpath : path ∈ c.order := (c.mem_moving.mp (by rw [hsplit]; simp)).1
  refine List.eq_nil_iff_forall_not_mem.mpr fun j hj => ?_
  have hne : path ≠ below ++ [j] := by
    rintro rfl
    exact SymbolPath.concat_not_prefix_self below j hpre
  have hmem := mem_indicesAmong.mp hj
  rw [← List.append_assoc, List.mem_append, List.mem_singleton] at hmem
  obtain ⟨horder, hle⟩ := c.depth_le_of_mem_placed hsplit (hmem.resolve_right hne.symm)
  have := c.depth_lt ho hpath horder hne (List.prefix_append_of_prefix hpre)
  omega

/-- One step: when the turn of a piece comes, its ancestors are in place and its subtree is its
own. -/
theorem attach_piece (ho : o.IsContainmentTree) :
    Outline.attach (c.piece path) (arrangeLevel (c.putBack (c.settled ++ placed)) [] o.roots) =
      arrangeLevel (c.putBack (c.settled ++ (placed ++ [path]))) [] o.roots := by
  have hpath : path ∈ c.order := (c.mem_moving.mp (by rw [hsplit]; simp)).1
  obtain ⟨t, ht⟩ := Option.isSome_iff_exists.mp (c.located path hpath)
  obtain ⟨parent, i, rfl⟩ : ∃ parent i, path = parent ++ [i] :=
    (List.eq_nil_or_concat' path).resolve_left (c.not_nil_of_mem hpath)
  have hlast : ∀ above, c.putBack (c.settled ++ (placed ++ [parent ++ [i]])) above =
      c.putBack (c.settled ++ placed) above ++ indicesAmong [parent ++ [i]] above := by
    intro above
    rw [← List.append_assoc, putBack_append]
  have hpiece : c.piece (parent ++ [i]) =
      arrangeAt (c.putBack (c.settled ++ (placed ++ [parent ++ [i]]))) (parent ++ [i]) t := by
    rw [c.piece_of_get? ht]
    refine arrangeAt_congr (fun below hbelow => ?_) t
    rw [putBack, c.indicesAmong_below_eq_nil hsplit ho hbelow, List.append_nil]
  rw [hpiece]
  refine attach_arrangeLevel ho ht ?_ ?_ ?_ ?_ parent [] rfl
  · rw [hlast]
    congr 1
    simp [indicesAmong, SymbolPath.indexIn?]
  · intro above habove
    rw [hlast, List.append_right_eq_self]
    simp [indicesAmong, SymbolPath.indexIn?, habove.symm]
  · intro above j hpre
    refine c.mem_putBack_of_ancestor hsplit ho (List.prefix_append_of_prefix hpre) fun heq => ?_
    exact SymbolPath.concat_not_prefix_self parent i (heq ▸ hpre)
  · have hnodup := c.nodup_settled_append_moving
    rw [hsplit, ← List.append_assoc] at hnodup
    exact c.nodup_putBack (List.nodup_append.mp hnodup).1
      fun p hp => (c.depth_le_of_mem_placed hsplit hp).1

end Step

theorem foldl_attach_pieces (ho : o.IsContainmentTree) :
    ∀ rest placed : List SymbolPath, c.moving = placed ++ rest →
      (rest.map c.piece).foldl (fun siblings s => Outline.attach s siblings)
          (arrangeLevel (c.putBack (c.settled ++ placed)) [] o.roots) =
        arrangeLevel (c.putBack (c.settled ++ c.moving)) [] o.roots
  | [], placed, hsplit => by rw [hsplit, List.append_nil]; rfl
  | path :: rest, placed, hsplit => by
      rw [List.map_cons, List.foldl_cons, c.attach_piece hsplit ho]
      exact foldl_attach_pieces ho rest (placed ++ [path]) (by rw [hsplit]; simp)

/-! ## The order of siblings -/

/-- Leaving out what a partial map drops anyway does not matter to it. -/
theorem filterMap_filter_of_isSome {α β : Type} {f : α → Option β} {keep : α → Bool} {l : List α}
    (h : ∀ a ∈ l, (f a).isSome → keep a) : (l.filter keep).filterMap f = l.filterMap f := by
  rw [List.filterMap_filter]
  refine List.filterMap_congr fun a ha => ?_
  split
  · rfl
  · rename_i hkeep
    cases hf : f a with
    | none => rfl
    | some b => exact absurd (h a ha (by rw [hf]; rfl)) hkeep

/-- What a partial map is defined on lies on one side of a partition. -/
theorem filterMap_partition {α β : Type} {f : α → Option β} {keep : α → Bool} {l : List α}
    (h : ∀ a ∈ l, ∀ b ∈ l, (f a).isSome → (f b).isSome → keep a = keep b) :
    (l.filter keep).filterMap f ++ (l.filter fun a => !keep a).filterMap f = l.filterMap f := by
  by_cases hkeep : ∃ a ∈ l, (f a).isSome ∧ keep a = true
  · obtain ⟨a, ha, hfa, hka⟩ := hkeep
    have hall : ∀ b ∈ l, (f b).isSome → keep b = true :=
      fun b hb hfb => (h a ha b hb hfa hfb).symm.trans hka
    have hnil : (l.filter fun a => !keep a).filterMap f = [] := by
      refine List.filterMap_eq_nil_iff.mpr fun b hb => ?_
      obtain ⟨hb, hkb⟩ := List.mem_filter.mp hb
      by_contra hfb
      simp [hall b hb (Option.isSome_iff_ne_none.mpr hfb)] at hkb
    rw [filterMap_filter_of_isSome hall, hnil, List.append_nil]
  · have hnone : ∀ b ∈ l, (f b).isSome → keep b = false :=
      fun b hb hfb => Bool.eq_false_iff.mpr fun hkb => hkeep ⟨b, hb, hfb, hkb⟩
    have hnil : (l.filter keep).filterMap f = [] := by
      refine List.filterMap_eq_nil_iff.mpr fun b hb => ?_
      obtain ⟨hb, hkb⟩ := List.mem_filter.mp hb
      by_contra hfb
      simp [hnone b hb (Option.isSome_iff_ne_none.mpr hfb)] at hkb
    rw [hnil, List.nil_append, filterMap_filter_of_isSome]
    intro b hb hfb
    rw [hnone b hb hfb]
    rfl

/-- A stable sort keeps the order of elements that it takes for equal. -/
theorem filterMap_mergeSort {α β : Type} {f : α → Option β} {measure : α → Nat} {l : List α}
    (h : ∀ a ∈ l, ∀ b ∈ l, (f a).isSome → (f b).isSome → measure a = measure b) :
    (l.mergeSort fun a b => measure a ≤ measure b).filterMap f = l.filterMap f := by
  have hsub : List.Sublist (l.filter fun a => (f a).isSome)
      ((l.mergeSort fun a b => measure a ≤ measure b).filter fun a => (f a).isSome) := by
    have hsorted : (l.filter fun a => (f a).isSome).Pairwise
        fun a b => decide (measure a ≤ measure b) = true := by
      refine List.Pairwise.imp_of_mem ?_ (List.pairwise_of_forall fun _ _ => trivial)
      intro a b ha hb _
      obtain ⟨ha, hfa⟩ := List.mem_filter.mp ha
      obtain ⟨hb, hfb⟩ := List.mem_filter.mp hb
      exact decide_eq_true (Nat.le_of_eq (h a ha b hb hfa hfb))
    have := (List.sublist_mergeSort (fun p q r hpq hqr => by simp at *; omega)
      (fun p q => by simp; omega) hsorted List.filter_sublist).filter fun a => (f a).isSome
    rwa [List.filter_filter, show (fun a => (f a).isSome && (f a).isSome) = fun a => (f a).isSome by
      simp] at this
  have hperm := (List.mergeSort_perm l fun a b => decide (measure a ≤ measure b)).filter
    fun a => (f a).isSome
  have heq := hsub.eq_of_length hperm.length_eq.symm
  rw [← filterMap_filter_of_isSome (fun a _ ha => ha), ← heq,
    filterMap_filter_of_isSome (fun a _ ha => ha)]

/-- All pieces being back, each parent has its pieces in the order of the root list. -/
theorem putBack_settled_append_moving (ho : o.IsContainmentTree) :
    c.putBack (c.settled ++ c.moving) = c.putBack c.order := by
  funext parent
  have hdepth : ∀ p ∈ c.order, ∀ q ∈ c.order, (SymbolPath.indexIn? parent p).isSome →
      (SymbolPath.indexIn? parent q).isSome → c.depth p = c.depth q := by
    intro p hp q hq hip hiq
    obtain ⟨i, hi⟩ := Option.isSome_iff_exists.mp hip
    obtain ⟨j, hj⟩ := Option.isSome_iff_exists.mp hiq
    obtain rfl := SymbolPath.indexIn?_eq_some.mp hi
    obtain rfl := SymbolPath.indexIn?_eq_some.mp hj
    exact c.depth_siblings ho hp hq
  have hmoving : indicesAmong c.moving parent =
      indicesAmong (c.order.filter fun path => c.depth path != 0) parent :=
    filterMap_mergeSort fun p hp q hq =>
      hdepth p (List.mem_filter.mp hp).1 q (List.mem_filter.mp hq).1
  rw [putBack, putBack, indicesAmong_append, hmoving]
  congr 1
  exact filterMap_partition fun p hp q hq hip hiq => by rw [hdepth p hp q hq hip hiq]

end Cutting

namespace Outline

/-- **Containment repair.** However symbols of a containment tree were cut out of their parents and
put among the roots, each comes back under its parent: the roots are in the order of the list, and
below each symbol are the children that never left, in their old order, then those that came back,
in the order of the list. So a tree can be rebuilt from the list of its symbols. -/
theorem normalize_pieces (o : Outline) (ho : o.IsContainmentTree) :
    (∀ c : Cutting o, normalize c.pieces = c.mended) ∧ normalize o.flatten = o := by
  have hpieces : ∀ c : Cutting o, normalize c.pieces = c.mended := by
    intro c
    have hrun := c.foldl_attach_pieces ho c.moving [] rfl
    rw [List.append_nil, c.arrangeLevel_putBack_settled ho,
      c.putBack_settled_append_moving ho] at hrun
    rw [normalize, c.stayingRoots_pieces, c.movingRoots_pieces, hrun]
    rfl
  refine ⟨hpieces, ?_⟩
  rw [← Cutting.pieces_all, hpieces, Cutting.mended_all]

/-- A method and the function inside it are cut out of a class and of each other. -/
def sampleCutting : Cutting sample where
  order := [[0, 1, 0], [1], [0], [0, 1]]
  nodup := by decide
  located := by decide
  roots := by decide

theorem normalize_pieces_sample :
    sample.IsContainmentTree ∧
      normalize
          [.block "total" "" .function 40 50 [], .block "main" "" .function 120 130 [],
            .block "Shop" "" .classType 0 100
              [.block "Item" "declaration" .struct 5 20 [.block "price" "" .field 6 8 []]],
            .block "sell" "" .method 30 60 []] =
        ⟨[.block "main" "" .function 120 130 [],
          .block "Shop" "" .classType 0 100
            [.block "Item" "declaration" .struct 5 20 [.block "price" "" .field 6 8 []],
              .block "sell" "" .method 30 60 [.block "total" "" .function 40 50 []]]]⟩ ∧
      normalize sample.flatten = sample := by
  have htree : sample.IsContainmentTree := by decide
  obtain ⟨hpieces, hflatten⟩ := normalize_pieces sample htree
  exact ⟨htree, hpieces sampleCutting, hflatten⟩

end Outline

end OutlineNav
