import OutlineNav.Fold
import OutlineNav.Proofs.Unfolding

/-!
# Folded lines

Which lines are folded, and in which order. A line is folded for a reason: a folding range that
starts there lies inside of a definition that is to be folded, or is a long comment. Reasons come in
an order: definitions in pre-order, in each of them the folding ranges as they are listed, and
comments at the end. The plan lists every line that there is a reason for, once, in the order of the
first reasons (`planFolds_exact`).

What the user has selected stays open, unless he asks otherwise. The plan tests the definition, not
the region that is hidden; but a region inside of a definition that touches no selection touches
none itself (`not_intersects_of_containsRange`), whichever end of the definition's range comes
first. So nothing of a selection is hidden (`planFolds_spares_selections`).
-/

namespace OutlineNav

/-! ## Reasons to fold a line -/

section

variable (selections : List Selection) (options : FoldOptions)

/-- The folding range is to be folded because it lies inside of the symbol. -/
structure FoldsInside (s : Symbol) (f : FoldRange) : Prop where
  navigable : s.isNavigable = true
  kind : options.folds s.kind = true
  lines : s.range.start.line ≠ s.range.stop.line
  spared : options.current = true ∨
    ∀ selection ∈ selections, s.range.intersects selection.range = false
  inside : s.range.containsRange (.ofCoords f.startLine Position.maxWord f.endLine 0) = true

/-- The folding range is to be folded because it is a comment. -/
structure FoldsAsComment (f : FoldRange) : Prop where
  kind : f.kind = .comment
  lines : f.startLine.toNat + 2 ≤ f.endLine.toNat
  spared : options.current = true ∨ ∀ selection ∈ selections,
    Range.intersects ⟨⟨f.startLine, 0⟩, ⟨f.endLine - 1, Position.maxWord⟩⟩ selection.range = false

end

/-- Why a line is folded: a folding range in a symbol, or a comment. Symbols are counted in
pre-order, folding ranges as they are listed. -/
inductive FoldReason where
  | inside (symbol range : Nat)
  | comment (range : Nat)
  deriving DecidableEq, Repr

namespace FoldReason

/-- The order in which reasons are found. -/
def before : FoldReason → FoldReason → Prop
  | .inside i j, .inside i' j' => i < i' ∨ i = i' ∧ j < j'
  | .inside .., .comment _ => True
  | .comment _, .inside .. => False
  | .comment j, .comment j' => j < j'

theorem before_irrefl (r : FoldReason) : ¬r.before r := by
  cases r <;> simp [before]

/-- The reason applies, and to a folding range that starts at this line. -/
def Applies (o : Outline) (ranges : List FoldRange) (selections : List Selection)
    (options : FoldOptions) (line : UInt32) : FoldReason → Prop
  | .inside i j => ∃ l f, o.located[i]? = some l ∧ ranges[j]? = some f ∧
      FoldsInside selections options l.symbol f ∧ f.startLine = line
  | .comment j => ∃ f, ranges[j]? = some f ∧ FoldsAsComment selections options f ∧
      f.startLine = line

end FoldReason

/-! ## The tests of the plan -/

theorem touches_eq_false {selections : List Selection} {range : Range} :
    touches selections range = false ↔
      ∀ selection ∈ selections, range.intersects selection.range = false := by
  rw [touches, List.any_eq_false]
  simp only [Bool.not_eq_true]

theorem foldsInside_iff {selections : List Selection} {options : FoldOptions} {s : Symbol}
    {f : FoldRange} :
    FoldsInside selections options s f ↔ s.isNavigable = true ∧
      foldsSymbol selections options s = true ∧ s.range.containsRange f.body = true := by
  have hlines : (!s.range.isSingleLine) = true ↔ s.range.start.line ≠ s.range.stop.line := by
    rw [Range.isSingleLine, Bool.not_eq_true', beq_eq_false_iff_ne]
  rw [foldsSymbol, Bool.and_eq_true, Bool.and_eq_true, hlines, Bool.or_eq_true, Bool.not_eq_true',
    touches_eq_false]
  constructor
  · rintro ⟨hnavigable, hkind, hlong, hspared, hinside⟩
    exact ⟨hnavigable, ⟨⟨hkind, hlong⟩, hspared⟩, hinside⟩
  · rintro ⟨hnavigable, ⟨⟨hkind, hlong⟩, hspared⟩, hinside⟩
    exact ⟨hnavigable, hkind, hlong, hspared, hinside⟩

/-- The region of a long comment ends behind its start, so that its ends stay as they are. -/
theorem commentText_eq {f : FoldRange} (h : f.startLine.toNat + 2 ≤ f.endLine.toNat) :
    f.commentText = ⟨⟨f.startLine, 0⟩, ⟨f.endLine - 1, Position.maxWord⟩⟩ := by
  have hne : f.endLine ≠ 0 := by
    rintro hzero
    rw [hzero] at h
    cases h
  have hsub : (f.endLine - 1).toNat = f.endLine.toNat - 1 :=
    UInt32.toNat_sub_of_le _ _ (UInt32.le_iff_toNat_le.mpr (by change 1 ≤ _; omega))
  have hle : (⟨f.startLine, 0⟩ : Position) ≤ ⟨f.endLine - 1, Position.maxWord⟩ := by
    have hlt : f.startLine.toNat < (f.endLine - 1).toNat := by omega
    exact .inl (UInt32.lt_iff_toNat_lt.mpr hlt)
  rw [FoldRange.commentText, Position.predWord, if_neg hne, Range.ofCoords, if_pos hle]

theorem foldsAsComment_iff {selections : List Selection} {options : FoldOptions} {f : FoldRange} :
    FoldsAsComment selections options f ↔ foldsComment selections options f = true := by
  rw [foldsComment, FoldRange.isLongComment, Bool.and_eq_true, Bool.and_eq_true, beq_iff_eq,
    decide_eq_true_eq, Bool.or_eq_true, Bool.not_eq_true', touches_eq_false]
  constructor
  · rintro ⟨hkind, hlong, hspared⟩
    exact ⟨⟨hkind, hlong⟩, commentText_eq hlong ▸ hspared⟩
  · rintro ⟨⟨hkind, hlong⟩, hspared⟩
    exact ⟨hkind, hlong, commentText_eq hlong ▸ hspared⟩

/-! ## The reasons in their order -/

section

variable (o : Outline) (ranges : List FoldRange) (selections : List Selection)
  (options : FoldOptions)

/-- The folding ranges in a symbol, as reasons with their lines. -/
def insideReasons (l : Located) (i : Nat) : List (FoldReason × UInt32) :=
  (ranges.zipIdx.filter fun (f, _) => l.symbol.range.containsRange f.body).map fun (f, j) =>
    (.inside i j, f.startLine)

/-- All reasons with their lines. -/
def foldReasons : List (FoldReason × UInt32) :=
  (o.located.zipIdx.filter fun (l, _) =>
      foldsSymbol selections options l.symbol && l.symbol.isNavigable).flatMap
    (fun (l, i) => insideReasons ranges l i) ++
  (ranges.zipIdx.filter fun (f, _) => foldsComment selections options f).map fun (f, j) =>
    (.comment j, f.startLine)

theorem mem_foldReasons {reason : FoldReason} {line : UInt32} :
    (reason, line) ∈ foldReasons o ranges selections options ↔
      reason.Applies o ranges selections options line := by
  simp only [foldReasons, insideReasons, List.mem_append, List.mem_flatMap, List.mem_map,
    List.mem_filter, Prod.exists, Prod.mk.injEq, List.mem_zipIdx_iff_getElem?, Bool.and_eq_true]
  cases reason with
  | inside i j =>
      constructor
      · rintro (⟨l, _, ⟨hl, hfolds, hnavigable⟩, f, _, ⟨hf, hinside⟩, hreason, rfl⟩ |
          ⟨_, _, _, ⟨⟩, _⟩)
        cases hreason
        exact ⟨l, f, hl, hf, foldsInside_iff.mpr ⟨hnavigable, hfolds, hinside⟩, rfl⟩
      · rintro ⟨l, f, hl, hf, hfolds, rfl⟩
        obtain ⟨hnavigable, hsymbol, hinside⟩ := foldsInside_iff.mp hfolds
        exact .inl ⟨l, i, ⟨hl, hsymbol, hnavigable⟩, f, j, ⟨hf, hinside⟩, rfl, rfl⟩
  | comment j =>
      constructor
      · rintro (⟨_, _, _, _, _, _, ⟨⟩, _⟩ | ⟨f, _, ⟨hf, hfolds⟩, hreason, rfl⟩)
        cases hreason
        exact ⟨f, hf, foldsAsComment_iff.mpr hfolds, rfl⟩
      · rintro ⟨f, hf, hfolds, rfl⟩
        exact .inr ⟨f, j, ⟨hf, foldsAsComment_iff.mp hfolds⟩, rfl, rfl⟩

end

/-! ### Their lines -/

theorem map_fst_filter_zipIdx {α : Type} (p : α → Bool) (items : List α) :
    (items.zipIdx.filter fun x => p x.1).map Prod.fst = items.filter p := by
  conv_rhs => rw [← List.zipIdx_map_fst 0 items, List.filter_map]
  rfl

theorem map_line_insideReasons (ranges : List FoldRange) (l : Located) (i : Nat) :
    (insideReasons ranges l i).map Prod.snd = bodyLines ranges l.symbol := by
  have hfst := map_fst_filter_zipIdx (fun f => l.symbol.range.containsRange f.body) ranges
  rw [insideReasons, bodyLines, List.map_map, ← hfst, List.map_map]
  rfl

theorem planFolds_eq (o : Outline) (ranges : List FoldRange) (selections : List Selection)
    (options : FoldOptions) :
    planFolds o ranges selections options =
      ((foldReasons o ranges selections options).map Prod.snd).eraseDups := by
  have hdefinitions := map_fst_filter_zipIdx
    (fun l => foldsSymbol selections options l.symbol && l.symbol.isNavigable) o.located
  have hcomments := map_fst_filter_zipIdx (foldsComment selections options) ranges
  calc planFolds o ranges selections options
    _ = ((o.located.filter fun l =>
            foldsSymbol selections options l.symbol && l.symbol.isNavigable).flatMap
          (fun l => bodyLines ranges l.symbol) ++
          (ranges.filter (foldsComment selections options)).map (·.startLine)).eraseDups := by
        rw [planFolds, o.targets_eq, List.filter_map, List.filter_filter, List.flatMap_map]
        rfl
    _ = ((foldReasons o ranges selections options).map Prod.snd).eraseDups := by
        rw [foldReasons, List.map_append, List.map_flatMap, List.map_map, ← hdefinitions,
          ← hcomments, List.flatMap_map, List.map_map]
        simp only [map_line_insideReasons]
        rfl

/-! ### Their order -/

theorem pairwise_zipIdx {α : Type} (items : List α) :
    items.zipIdx.Pairwise fun a b => a.2 < b.2 := by
  rw [← List.pairwise_map (R := (· < ·)), List.zipIdx_map_snd]
  exact List.pairwise_lt_range'

theorem exists_of_mem_insideReasons {ranges : List FoldRange} {l : Located} {i : Nat}
    {x : FoldReason × UInt32} (h : x ∈ insideReasons ranges l i) : ∃ j, x.1 = .inside i j := by
  obtain ⟨⟨f, j⟩, -, rfl⟩ := List.mem_map.mp h
  exact ⟨j, rfl⟩

theorem pairwise_foldReasons (o : Outline) (ranges : List FoldRange) (selections : List Selection)
    (options : FoldOptions) :
    (foldReasons o ranges selections options).Pairwise fun a b => a.1.before b.1 := by
  rw [foldReasons, List.pairwise_append, List.pairwise_flatMap, List.pairwise_map]
  refine ⟨⟨?_, ?_⟩, ?_, ?_⟩
  · rintro ⟨l, i⟩ _
    change (insideReasons ranges l i).Pairwise _
    rw [insideReasons, List.pairwise_map]
    exact ((pairwise_zipIdx ranges).filter _).imp fun hlt => .inr ⟨rfl, hlt⟩
  · refine ((pairwise_zipIdx o.located).filter _).imp fun hlt x hx y hy => ?_
    obtain ⟨_, hx⟩ := exists_of_mem_insideReasons hx
    obtain ⟨_, hy⟩ := exists_of_mem_insideReasons hy
    rw [hx, hy]
    exact .inl hlt
  · exact ((pairwise_zipIdx ranges).filter _).imp fun hlt => hlt
  · intro x hx y hy
    obtain ⟨_, -, hx⟩ := List.mem_flatMap.mp hx
    obtain ⟨_, hx⟩ := exists_of_mem_insideReasons hx
    obtain ⟨_, -, rfl⟩ := List.mem_map.mp hy
    rw [hx]
    trivial

/-- Without duplicates, the images of a list stand in the order of their first preimages. -/
theorem pairwise_eraseDups_map {α β : Type} [DecidableEq β] {R : α → α → Prop} (f : α → β)
    (items : List α) (h : items.Pairwise R) :
    (items.map f).eraseDups.Pairwise fun a b =>
      ∃ x ∈ items, f x = a ∧ ∀ y ∈ items, f y = b → R x y := by
  -- By the length, because the first item takes all later items with its image along.
  induction hn : items.length using Nat.strongRecOn generalizing items with
  | ind n ih =>
      cases items with
      | nil => exact .nil
      | cons x rest =>
          obtain ⟨hfirst, hrest⟩ := List.pairwise_cons.mp h
          have hlt : (rest.filter fun y => !f y == f x).length < n :=
            hn ▸ Nat.lt_succ_of_le (List.length_filter_le ..)
          have hkept : ∀ {y}, y ∈ rest.filter (fun y => !f y == f x) ↔ y ∈ rest ∧ f y ≠ f x := by
            simp only [List.mem_filter, Bool.not_eq_true', beq_eq_false_iff_ne, implies_true]
          have hlater : ∀ b ∈ ((rest.filter fun y => !f y == f x).map f).eraseDups, b ≠ f x := by
            intro b hb
            obtain ⟨y, hy, rfl⟩ := List.mem_map.mp (List.mem_eraseDups.mp hb)
            exact (hkept.mp hy).2
          rw [List.map_cons, List.eraseDups_cons, List.filter_map, List.pairwise_cons]
          constructor
          · intro b hb
            refine ⟨x, List.mem_cons_self, rfl, fun y hy heq => ?_⟩
            rcases List.mem_cons.mp hy with rfl | hy
            · exact absurd heq.symm (hlater b hb)
            · exact hfirst y hy
          · refine (ih _ hlt _ (hrest.filter _) rfl).imp_of_mem fun _ hb hbefore => ?_
            obtain ⟨z, hz, hza, hall⟩ := hbefore
            refine ⟨z, List.mem_cons_of_mem _ (hkept.mp hz).1, hza, fun y hy heq => ?_⟩
            rcases List.mem_cons.mp hy with rfl | hy
            · exact absurd heq.symm (hlater _ hb)
            · exact hall y (hkept.mpr ⟨hy, heq ▸ hlater _ hb⟩) heq

theorem mem_planFolds {o : Outline} {ranges : List FoldRange} {selections : List Selection}
    {options : FoldOptions} {line : UInt32} :
    line ∈ planFolds o ranges selections options ↔
      ∃ reason : FoldReason, reason.Applies o ranges selections options line := by
  rw [planFolds_eq, List.mem_eraseDups, List.mem_map]
  constructor
  · rintro ⟨⟨reason, _⟩, hmem, rfl⟩
    exact ⟨reason, (mem_foldReasons ..).mp hmem⟩
  · rintro ⟨reason, happlies⟩
    exact ⟨_, (mem_foldReasons ..).mpr happlies, rfl⟩

/-! ## The plan -/

theorem exists_reason_iff {o : Outline} {ranges : List FoldRange} {selections : List Selection}
    {options : FoldOptions} {line : UInt32} :
    (∃ reason : FoldReason, reason.Applies o ranges selections options line) ↔
      (∃ path s f, o.get? path = some s ∧ f ∈ ranges ∧ FoldsInside selections options s f ∧
        f.startLine = line) ∨
      ∃ f ∈ ranges, FoldsAsComment selections options f ∧ f.startLine = line := by
  constructor
  · rintro ⟨i | j, happlies⟩
    · obtain ⟨l, f, hl, hf, hfolds⟩ := happlies
      exact .inl ⟨l.path, l.symbol, f, Outline.mem_located.mp (List.mem_of_getElem? hl),
        List.mem_of_getElem? hf, hfolds⟩
    · obtain ⟨f, hf, hfolds⟩ := happlies
      exact .inr ⟨f, List.mem_of_getElem? hf, hfolds⟩
  · rintro (⟨path, s, f, hs, hf, hfolds⟩ | ⟨f, hf, hfolds⟩)
    · obtain ⟨i, hi⟩ := List.mem_iff_getElem?.mp (Outline.mem_located (l := ⟨path, s⟩).mpr hs)
      obtain ⟨j, hj⟩ := List.mem_iff_getElem?.mp hf
      exact ⟨.inside i j, _, f, hi, hj, hfolds⟩
    · obtain ⟨j, hj⟩ := List.mem_iff_getElem?.mp hf
      exact ⟨.comment j, f, hj, hfolds⟩

theorem pairwise_planFolds (o : Outline) (ranges : List FoldRange) (selections : List Selection)
    (options : FoldOptions) :
    (planFolds o ranges selections options).Pairwise fun a b =>
      ∃ reason : FoldReason, reason.Applies o ranges selections options a ∧
        ∀ other : FoldReason, other.Applies o ranges selections options b →
          reason.before other := by
  rw [planFolds_eq]
  refine (pairwise_eraseDups_map Prod.snd _ (pairwise_foldReasons ..)).imp ?_
  rintro _ b ⟨⟨reason, a⟩, hreason, rfl, hall⟩
  exact ⟨reason, (mem_foldReasons ..).mp hreason, fun other hother =>
    hall (other, b) ((mem_foldReasons ..).mpr hother) rfl⟩

/-- The plan has exactly the lines that there is a reason for, each of them once: the start lines of
the folding ranges inside of a definition that is to be folded, wherever in the outline it is, and
those of long comments. Of two lines, the one with the first reason stands in front. -/
theorem planFolds_exact (o : Outline) (ranges : List FoldRange) (selections : List Selection)
    (options : FoldOptions) :
    (planFolds o ranges selections options).Nodup ∧
    (∀ line, line ∈ planFolds o ranges selections options ↔
      (∃ path s f, o.get? path = some s ∧ f ∈ ranges ∧ FoldsInside selections options s f ∧
        f.startLine = line) ∨
      ∃ f ∈ ranges, FoldsAsComment selections options f ∧ f.startLine = line) ∧
    (planFolds o ranges selections options).Pairwise fun a b =>
      ∃ reason : FoldReason, reason.Applies o ranges selections options a ∧
        ∀ other : FoldReason, other.Applies o ranges selections options b →
          reason.before other := by
  have horder := pairwise_planFolds o ranges selections options
  refine ⟨horder.imp ?_, fun line => mem_planFolds.trans exists_reason_iff, horder⟩
  rintro a _ ⟨reason, happlies, hall⟩ rfl
  exact reason.before_irrefl (hall reason happlies)

/-! ## What is selected -/

theorem not_intersects_of_containsRange {outer inner other : Range}
    (h : outer.containsRange inner = true) (hfree : outer.intersects other = false) :
    inner.intersects other = false := by
  simp only [Range.containsRange, Range.intersects, Bool.and_eq_true, Bool.and_eq_false_iff,
    decide_eq_true_eq, decide_eq_false_iff_not, Position.le_iff_rank] at *
  omega

theorem not_contains_of_not_intersects {a b : Range} (h : a.intersects b = false) {p : Position}
    (hp : b.contains p = true) : a.contains p = false := by
  simp only [Range.contains, Range.intersects, Bool.and_eq_true, Bool.and_eq_false_iff,
    decide_eq_true_eq, decide_eq_false_iff_not, Position.le_iff_rank] at *
  omega

/-- A region that touches no selection, and so has no position of one. -/
def Spares (selections : List Selection) (region : Range) : Prop :=
  ∀ selection ∈ selections, region.intersects selection.range = false ∧
    ∀ p, selection.range.contains p = true → region.contains p = false

theorem spares_of_not_intersects {selections : List Selection} {region : Range}
    (h : ∀ selection ∈ selections, region.intersects selection.range = false) :
    Spares selections region := fun selection hmem =>
  ⟨h selection hmem, fun _ hp => not_contains_of_not_intersects (h selection hmem) hp⟩

section

variable {selections : List Selection} {options : FoldOptions} (h : options.current = false)

include h

theorem FoldsInside.spares {s : Symbol} {f : FoldRange}
    (hfolds : FoldsInside selections options s f) :
    Spares selections (.ofCoords f.startLine Position.maxWord f.endLine 0) := by
  have hsymbol := hfolds.spared.resolve_left (Bool.eq_false_iff.mp h)
  exact spares_of_not_intersects fun selection hmem =>
    not_intersects_of_containsRange hfolds.inside (hsymbol selection hmem)

theorem FoldsAsComment.spares {f : FoldRange} (hfolds : FoldsAsComment selections options f) :
    Spares selections ⟨⟨f.startLine, 0⟩, ⟨f.endLine - 1, Position.maxWord⟩⟩ :=
  spares_of_not_intersects (hfolds.spared.resolve_left (Bool.eq_false_iff.mp h))

end

/-- A reason to fold what no selection touches stays one when everything is to be folded. -/
theorem FoldReason.Applies.current {o : Outline} {ranges : List FoldRange}
    {selections : List Selection} {options : FoldOptions} {line : UInt32} {reason : FoldReason}
    (h : reason.Applies o ranges selections options line) :
    reason.Applies o ranges selections { options with current := true } line := by
  cases reason with
  | inside i j =>
      obtain ⟨l, f, hl, hf, ⟨hnavigable, hkind, hlines, -, hinside⟩, hline⟩ := h
      exact ⟨l, f, hl, hf, ⟨hnavigable, hkind, hlines, .inl rfl, hinside⟩, hline⟩
  | comment j =>
      obtain ⟨f, hf, ⟨hkind, hlines, -⟩, hline⟩ := h
      exact ⟨f, hf, ⟨hkind, hlines, .inl rfl⟩, hline⟩

/-- Unless what is selected is to be folded too, every line is folded for a region that touches no
selection: the body in a definition, or the text of a comment. To fold what is selected only adds
lines. -/
theorem planFolds_spares_selections {options : FoldOptions} (h : options.current = false)
    (o : Outline) (ranges : List FoldRange) (selections : List Selection) :
    (∀ line ∈ planFolds o ranges selections options,
      (∃ path s f, o.get? path = some s ∧ f ∈ ranges ∧ f.startLine = line ∧
        FoldsInside selections options s f ∧
        Spares selections (.ofCoords f.startLine Position.maxWord f.endLine 0)) ∨
      ∃ f ∈ ranges, f.startLine = line ∧ FoldsAsComment selections options f ∧
        Spares selections ⟨⟨f.startLine, 0⟩, ⟨f.endLine - 1, Position.maxWord⟩⟩) ∧
    planFolds o ranges selections options ⊆
      planFolds o ranges selections { options with current := true } := by
  constructor
  · intro line hline
    rcases exists_reason_iff.mp (mem_planFolds.mp hline) with
      ⟨path, s, f, hs, hf, hfolds, hstart⟩ | ⟨f, hf, hfolds, hstart⟩
    · exact .inl ⟨path, s, f, hs, hf, hstart, hfolds, hfolds.spares h⟩
    · exact .inr ⟨f, hf, hstart, hfolds, hfolds.spares h⟩
  · intro line hline
    obtain ⟨reason, happlies⟩ := mem_planFolds.mp hline
    exact mem_planFolds.mpr ⟨reason, happlies.current⟩

/-- A cursor in a method, in front of a function inside of it: the body of the inner function is
folded although the folding range lies in the method, too, which stays open. -/
theorem planFolds_spares_selections_sample :
    let ranges : List FoldRange :=
      [⟨30, 59, .other⟩, ⟨40, 49, .other⟩, ⟨105, 110, .comment⟩, ⟨120, 129, .other⟩]
    let selections : List Selection := [.caret ⟨35, 0⟩]
    let lines := planFolds Outline.sample ranges selections ⟨false, false, false⟩
    lines = [40, 120, 105] ∧
      (∃ f ∈ ranges, f.startLine = 40 ∧ Spares selections f.body) ∧
      lines ⊆ planFolds Outline.sample ranges selections ⟨false, true, false⟩ := by
  intro ranges selections lines
  have hcurrent : (⟨false, false, false⟩ : FoldOptions).current = false := rfl
  obtain ⟨hregions, hmore⟩ :=
    planFolds_spares_selections hcurrent Outline.sample ranges selections
  have hlines : lines = [40, 120, 105] := by decide +kernel
  have hmem : (40 : UInt32) ∈ lines := by
    rw [hlines]
    decide
  have hcomment : ∀ f ∈ ranges, f.startLine = 40 → f.kind ≠ .comment := by decide
  refine ⟨hlines, ?_, hmore⟩
  rcases hregions 40 hmem with
    ⟨-, -, f, -, hf, hstart, -, hspares⟩ | ⟨f, hf, hstart, hfolds, -⟩
  · exact ⟨f, hf, hstart, hspares⟩
  · exact absurd hfolds.kind (hcomment f hf hstart)

end OutlineNav
