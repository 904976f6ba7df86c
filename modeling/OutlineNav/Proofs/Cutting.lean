import Mathlib.Data.List.Basic
import Mathlib.Data.List.Nodup
import OutlineNav.Proofs.Arrangement

/-!
# Cutting symbols out of an outline

A server that reports symbols beside the symbol they lie in has cut them out of their parents and
put them among the roots. A `Cutting` of an outline is one way to do so: it lists the addresses of
the roots and of the symbols cut out, in the order of the resulting root list. A symbol may be cut
out of a symbol that is itself cut out; each takes along what is not cut out of it.

`Cutting.pieces` is the root list that results, `Cutting.mended` the outline in which each piece is
back under its parent, behind the children that never left.
-/

namespace OutlineNav

/-! ## Indices below an address -/

/-- The index of an address among the children of `parent`, if it is one of them. -/
def SymbolPath.indexIn? (parent path : SymbolPath) : Option Nat :=
  if path.dropLast = parent then path.getLast? else none

theorem SymbolPath.indexIn?_eq_some {parent path : SymbolPath} {i : Nat} :
    indexIn? parent path = some i ↔ path = parent ++ [i] := by
  unfold indexIn?
  constructor
  · intro h
    split at h
    · rename_i hparent
      rw [← List.dropLast_append_getLast? i h, hparent]
    · cases h
  · rintro rfl
    simp

/-- The children of an address among `paths`, in the order of `paths`. -/
def indicesAmong (paths : List SymbolPath) : Arrangement :=
  fun parent => paths.filterMap (SymbolPath.indexIn? parent)

theorem mem_indicesAmong {paths : List SymbolPath} {parent : SymbolPath} {i : Nat} :
    i ∈ indicesAmong paths parent ↔ parent ++ [i] ∈ paths := by
  simp [indicesAmong, SymbolPath.indexIn?_eq_some]

theorem nodup_indicesAmong {paths : List SymbolPath} (h : paths.Nodup) (parent : SymbolPath) :
    (indicesAmong paths parent).Nodup := by
  refine List.Nodup.filterMap ?_ h
  intro path path' i hpath hpath'
  rw [SymbolPath.indexIn?_eq_some.mp hpath, SymbolPath.indexIn?_eq_some.mp hpath']

theorem indicesAmong_append (paths paths' : List SymbolPath) (parent : SymbolPath) :
    indicesAmong (paths ++ paths') parent =
      indicesAmong paths parent ++ indicesAmong paths' parent :=
  List.filterMap_append

/-! ## Cuttings -/

/-- A choice of symbols cut out of their parents, and of an order of the resulting root list: the
addresses of all roots and of the symbols cut out, in that order. -/
structure Cutting (o : Outline) where
  order : List SymbolPath
  nodup : order.Nodup
  located : ∀ path ∈ order, (o.get? path).isSome
  roots : ∀ i < o.roots.length, [i] ∈ order

namespace Cutting

variable {o : Outline} (c : Cutting o)

/-- The children that are not cut out, in their old order. -/
def kept : Arrangement := fun path =>
  (List.range (o.childrenAt path).length).filter fun i => path ++ [i] ∉ c.order

/-- The symbol at an address with that part of its subtree that is not cut out of it. -/
def piece? (path : SymbolPath) : Option Symbol := (o.get? path).map (arrangeAt c.kept path)

/-- The root list after the cuts. -/
def pieces : List Symbol := c.order.filterMap c.piece?

/-- The pieces at `placed` put back, each behind the children that its parent kept and those that
came back before it. -/
def putBack (placed : List SymbolPath) : Arrangement := fun path =>
  c.kept path ++ indicesAmong placed path

/-- The outline with all pieces put back in the order of the root list. -/
def mended : Outline := o.arrange (c.putBack c.order)

theorem mem_kept {path : SymbolPath} {i : Nat} :
    i ∈ c.kept path ↔ (o.get? (path ++ [i])).isSome ∧ path ++ [i] ∉ c.order := by
  simp [kept, Outline.get?_concat]

theorem kept_nil : c.kept [] = [] := by
  refine List.eq_nil_iff_forall_not_mem.mpr fun i hi => ?_
  obtain ⟨hroot, hout⟩ := c.mem_kept.mp hi
  rw [Outline.get?_concat] at hroot
  exact hout (c.roots i (by simpa [Outline.childrenAt] using hroot))

theorem not_nil_of_mem {path : SymbolPath} (h : path ∈ c.order) : path ≠ [] := by
  rintro rfl
  exact nomatch c.located [] h

/-- The piece at an address of the root list. -/
def piece (path : SymbolPath) : Symbol := arrangeAt c.kept path ((o.get? path).getD default)

theorem piece_of_get? {path : SymbolPath} {s : Symbol} (h : o.get? path = some s) :
    c.piece path = arrangeAt c.kept path s := by
  rw [piece, h, Option.getD_some]

theorem range_piece {path : SymbolPath} {s : Symbol} (h : o.get? path = some s) :
    (c.piece path).range = s.range := by
  rw [c.piece_of_get? h, arrangeAt_eq]

theorem pieces_eq_map : c.pieces = c.order.map c.piece := by
  rw [pieces, List.filterMap_eq_map_iff_forall_eq_some]
  intro path hpath
  obtain ⟨s, hs⟩ := Option.isSome_iff_exists.mp (c.located path hpath)
  rw [piece?, hs, c.piece_of_get? hs]
  rfl

/-! ## Cutting everything -/

/-- Every symbol is on its own, in pre-order. -/
def all (o : Outline) : Cutting o where
  order := o.located.map (·.path)
  nodup := by
    rw [List.Nodup, List.pairwise_map]
    refine o.pairwise_located.imp fun {a b} hab heq => ?_
    rw [heq] at hab
    exact List.lt_irrefl _ hab
  located := by
    intro path hpath
    obtain ⟨l, hl, rfl⟩ := List.mem_map.mp hpath
    rw [Outline.mem_located.mp hl]
    rfl
  roots := by
    intro i hi
    refine List.mem_map.mpr ⟨⟨[i], o.roots[i]⟩, Outline.mem_located.mpr ?_, rfl⟩
    rw [show ([i] : SymbolPath) = [] ++ [i] from rfl, Outline.get?_concat]
    exact List.getElem?_eq_getElem hi

theorem mem_order_all {path : SymbolPath} : path ∈ (all o).order ↔ (o.get? path).isSome := by
  refine ⟨(all o).located path, fun h => ?_⟩
  obtain ⟨s, hs⟩ := Option.isSome_iff_exists.mp h
  exact List.mem_map.mpr ⟨⟨path, s⟩, Outline.mem_located.mpr hs, rfl⟩

theorem kept_all (path : SymbolPath) : (all o).kept path = [] := by
  refine List.eq_nil_iff_forall_not_mem.mpr fun i hi => ?_
  obtain ⟨hsome, hout⟩ := (all o).mem_kept.mp hi
  exact hout (mem_order_all.mpr hsome)

theorem pieces_all : (all o).pieces = o.flatten := by
  have hpiece : ∀ l ∈ o.located, (all o).piece l.path = l.symbol.detached := by
    intro l hl
    rw [piece_of_get? _ (Outline.mem_located.mp hl), arrangeAt_of_nil (kept_all _)]
  rw [pieces_eq_map, Outline.flatten, Symbol.flatten_eq_map_locatedFrom o.roots [] 0]
  exact (List.map_map ..).trans (List.map_congr_left hpiece)

/-- Pre-order lists siblings by their index. -/
theorem indicesAmong_all (path : SymbolPath) :
    indicesAmong (all o).order path = List.range (o.childrenAt path).length := by
  have hsorted : (indicesAmong (all o).order path).Pairwise (· < ·) := by
    have horder : (all o).order.Pairwise (· < ·) := List.pairwise_map.mpr o.pairwise_located
    refine horder.filterMap _ fun a b hab i hi j hj => ?_
    rw [SymbolPath.indexIn?_eq_some.mp hi, SymbolPath.indexIn?_eq_some.mp hj] at hab
    rcases Nat.lt_trichotomy i j with hij | rfl | hji
    · exact hij
    · exact absurd hab (List.lt_irrefl _)
    · exact absurd hab (List.lt_asymm (List.append_left_lt (List.cons_lt_cons_iff.mpr (.inl hji))))
  refine List.Perm.eq_of_pairwise (fun a b _ _ hab hba => absurd hab (Nat.lt_asymm hba)) hsorted
    List.pairwise_lt_range ?_
  refine (List.perm_ext_iff_of_nodup (nodup_indicesAmong (all o).nodup path)
    List.nodup_range).mpr fun i => ?_
  rw [mem_indicesAmong, mem_order_all, Outline.get?_concat, List.mem_range]
  simp

theorem mended_all : (all o).mended = o := by
  have hkids : ∀ path, (all o).putBack (all o).order path =
      List.range (o.childrenAt path).length := by
    intro path
    rw [putBack, kept_all, indicesAmong_all, List.nil_append]
  refine Outline.arrange_of_range (hkids []) fun path s hs => ?_
  rw [hkids, Outline.childrenAt_of_get? hs]

end Cutting

end OutlineNav
