import OutlineNav.Outline.Containment

/-!
# What containment repair keeps

Strict containment of ranges is a strict partial order, and a root has more containers than each of
its containers has (`containerCount_lt`). So every root that moves lies inside one that stays:
moving it only changes what is inside the staying roots, never the root list.

Two facts about `normalize` follow. No root of its result contains another one, and root lists of
that kind are not changed by it; hence its results are fixed points (`normalize_idempotent`). And
roots never vanish.
-/

namespace OutlineNav

/-! ## Strict containment -/

namespace Range

theorem strictlyContains_iff {r other : Range} :
    r.strictlyContains other = true ↔
      r ≠ other ∧ r.start ≤ other.start ∧ other.stop ≤ r.stop := by
  simp [strictlyContains, containsRange]

theorem strictlyContains_self (r : Range) : r.strictlyContains r = false := by
  simp [strictlyContains]

theorem strictlyContains_trans {a b c : Range} (hab : a.strictlyContains b = true)
    (hbc : b.strictlyContains c = true) : a.strictlyContains c = true := by
  obtain ⟨hne, hstart, hstop⟩ := strictlyContains_iff.mp hab
  obtain ⟨-, hstart', hstop'⟩ := strictlyContains_iff.mp hbc
  refine strictlyContains_iff.mpr ⟨?_, ?_, ?_⟩
  · rintro rfl
    -- `a` and `b` contain each other, so they are equal
    apply hne
    rw [Position.le_iff_rank] at *
    cases a; cases b
    congr 1
    · exact Position.rank_inj (by simp only at *; omega)
    · exact Position.rank_inj (by simp only at *; omega)
  · rw [Position.le_iff_rank] at *; omega
  · rw [Position.le_iff_rank] at *; omega

end Range

namespace Outline

/-! ## Counting containers -/

theorem containerCount_eq_zero {roots : List Symbol} {s : Symbol} :
    containerCount roots s = 0 ↔ ∀ t ∈ roots, t.range.strictlyContains s.range = false := by
  simp [containerCount]

/-- A container of `inner` is itself in fewer containers: all of its own contain `inner` too. -/
theorem containerCount_lt {roots : List Symbol} {outer inner : Symbol} (hmem : outer ∈ roots)
    (h : outer.range.strictlyContains inner.range = true) :
    containerCount roots outer < containerCount roots inner := by
  have himp : ∀ t : Symbol, t.range.strictlyContains outer.range = true →
      t.range.strictlyContains inner.range = true :=
    fun t ht => Range.strictlyContains_trans ht h
  obtain ⟨before, after, rfl⟩ := List.append_of_mem hmem
  have hbefore := List.countP_mono_left (l := before) fun t _ => himp t
  have hafter := List.countP_mono_left (l := after) fun t _ => himp t
  simp only [containerCount, List.countP_append, List.countP_cons, h,
    Range.strictlyContains_self] at hbefore hafter ⊢
  simp only [Bool.false_eq_true, if_false, if_true]
  omega

/-! ## The order of insertion -/

section Order

variable {α : Type} (depth : α → Nat) (l : List α)

/-- What stays, and behind it what moves in any order, is everything. -/
theorem filter_append_mergeSort_perm (le : α → α → Bool) :
    ((l.filter fun a => depth a == 0) ++ (l.filter fun a => depth a != 0).mergeSort le).Perm l :=
  ((List.mergeSort_perm _ _).append_left _).trans (List.filter_append_perm _ l)

theorem pairwise_mergeSort_le :
    (l.mergeSort fun a b => depth a ≤ depth b).Pairwise fun a b => depth a ≤ depth b := by
  have h : (l.mergeSort fun a b => depth a ≤ depth b).Pairwise
      fun a b => decide (depth a ≤ depth b) = true :=
    List.pairwise_mergeSort (fun a b c hab hbc => by simp at *; omega) (fun a b => by simp; omega) _
  exact h.imp of_decide_eq_true

end Order

theorem stayingRoots_append_movingRoots (roots : List Symbol) :
    (stayingRoots roots ++ movingRoots roots).Perm roots :=
  filter_append_mergeSort_perm (containerCount roots) roots _

theorem mem_stayingRoots {roots : List Symbol} {s : Symbol} :
    s ∈ stayingRoots roots ↔ s ∈ roots ∧ containerCount roots s = 0 := by
  simp [stayingRoots]

theorem mem_movingRoots {roots : List Symbol} {s : Symbol} :
    s ∈ movingRoots roots ↔ s ∈ roots ∧ containerCount roots s ≠ 0 := by
  simp [movingRoots]

/-- Every root stays or lies inside one that stays: a container with the fewest containers has
none. -/
theorem exists_stayingRoot {roots : List Symbol} {s : Symbol} (hmem : s ∈ roots) :
    ∃ t ∈ stayingRoots roots, t = s ∨ t.range.strictlyContains s.range = true := by
  induction hcount : containerCount roots s using Nat.strongRecOn generalizing s with
  | _ count ih =>
      by_cases hzero : containerCount roots s = 0
      · exact ⟨s, mem_stayingRoots.mpr ⟨hmem, hzero⟩, .inl rfl⟩
      · obtain ⟨outer, houter, hcontains⟩ := List.countP_pos_iff.mp (Nat.pos_of_ne_zero hzero)
        have hlt := containerCount_lt houter hcontains
        obtain ⟨t, ht, rfl | htouter⟩ := ih _ (hcount ▸ hlt) houter rfl
        · exact ⟨t, ht, .inr hcontains⟩
        · exact ⟨t, ht, .inr (Range.strictlyContains_trans htouter hcontains)⟩

theorem stayingRoots_ne_nil {roots : List Symbol} (h : roots ≠ []) : stayingRoots roots ≠ [] := by
  obtain ⟨s, hs⟩ := List.exists_mem_of_ne_nil roots h
  obtain ⟨t, ht, -⟩ := exists_stayingRoot hs
  exact List.ne_nil_of_mem ht

/-! ## One insertion -/

theorem attachBelow_eq (s t : Symbol) :
    attachBelow s t = { t with children := attach s t.children } := by
  cases t; rfl

theorem attach_eq_append {s : Symbol} {siblings : List Symbol}
    (h : ∀ t ∈ siblings, t.range.strictlyContains s.range = false) :
    attach s siblings = siblings ++ [s] := by
  induction siblings with
  | nil => rfl
  | cons t rest ih =>
      obtain ⟨ht, hrest⟩ := List.forall_mem_cons.mp h
      rw [attach, ht, ih hrest]
      rfl

/-- The first container is entered; nothing else changes. -/
theorem attach_append_cons {s t : Symbol} {before after : List Symbol}
    (hbefore : ∀ u ∈ before, u.range.strictlyContains s.range = false)
    (ht : t.range.strictlyContains s.range = true) :
    attach s (before ++ t :: after) =
      before ++ { t with children := attach s t.children } :: after := by
  induction before with
  | nil => rw [List.nil_append, attach, if_pos ht, attachBelow_eq]; rfl
  | cons u before ih =>
      obtain ⟨hu, hrest⟩ := List.forall_mem_cons.mp hbefore
      rw [List.cons_append, attach, hu, ih hrest]
      rfl

theorem map_range_attach {s t : Symbol} {siblings : List Symbol} (hmem : t ∈ siblings)
    (h : t.range.strictlyContains s.range = true) :
    (attach s siblings).map (·.range) = siblings.map (·.range) := by
  induction siblings with
  | nil => cases hmem
  | cons u rest ih =>
      rw [attach]
      split
      · rw [attachBelow_eq]; rfl
      · rename_i hu
        rcases List.mem_cons.mp hmem with rfl | hmem
        · exact absurd h hu
        · rw [List.map_cons, List.map_cons, ih hmem]

/-! ## The whole repair -/

/-- Insertions of symbols that lie inside one of the siblings leave the ranges of the siblings. -/
theorem map_range_foldl_attach {moving : List Symbol} :
    ∀ {siblings : List Symbol},
      (∀ s ∈ moving, ∃ r ∈ siblings.map (·.range), r.strictlyContains s.range = true) →
      (moving.foldl (fun siblings s => attach s siblings) siblings).map (·.range) =
        siblings.map (·.range) := by
  induction moving with
  | nil => intro siblings _; rfl
  | cons s moving ih =>
      intro siblings h
      obtain ⟨hs, hmoving⟩ := List.forall_mem_cons.mp h
      obtain ⟨r, hr, hcontains⟩ := hs
      obtain ⟨t, ht, rfl⟩ := List.mem_map.mp hr
      have hranges := map_range_attach ht hcontains
      rw [List.foldl_cons, ih (by rwa [hranges]), hranges]

theorem map_range_normalize (roots : List Symbol) :
    (normalize roots).roots.map (·.range) = (stayingRoots roots).map (·.range) := by
  apply map_range_foldl_attach
  intro s hs
  obtain ⟨hmem, hcount⟩ := mem_movingRoots.mp hs
  obtain ⟨t, ht, rfl | hcontains⟩ := exists_stayingRoot hmem
  · exact absurd (mem_stayingRoots.mp ht).2 hcount
  · exact ⟨t.range, List.mem_map_of_mem ht, hcontains⟩

theorem normalize_roots_ne_nil {roots : List Symbol} (h : roots ≠ []) :
    (normalize roots).roots ≠ [] := by
  intro hnil
  have hranges := map_range_normalize roots
  rw [hnil] at hranges
  exact stayingRoots_ne_nil h (List.map_eq_nil_iff.mp hranges.symm)

/-- No root of a repaired outline lies inside another one. -/
theorem not_strictlyContains_of_mem_normalize {roots : List Symbol} {s t : Symbol}
    (hs : s ∈ (normalize roots).roots) (ht : t ∈ (normalize roots).roots) :
    s.range.strictlyContains t.range = false := by
  have staying : ∀ {u : Symbol}, u ∈ (normalize roots).roots →
      ∃ v ∈ stayingRoots roots, v.range = u.range := by
    intro u hu
    have hrange := List.mem_map_of_mem (f := (·.range)) hu
    rw [map_range_normalize] at hrange
    exact List.mem_map.mp hrange
  obtain ⟨u, hu, hus⟩ := staying hs
  obtain ⟨v, hv, hvt⟩ := staying ht
  rw [← hus, ← hvt]
  exact containerCount_eq_zero.mp (mem_stayingRoots.mp hv).2 u (mem_stayingRoots.mp hu).1

/-- Roots of which none lies inside another one are in repair. -/
theorem normalize_of_not_strictlyContains {roots : List Symbol}
    (h : ∀ s ∈ roots, ∀ t ∈ roots, s.range.strictlyContains t.range = false) :
    normalize roots = ⟨roots⟩ := by
  have hzero : ∀ s ∈ roots, containerCount roots s = 0 :=
    fun s hs => containerCount_eq_zero.mpr fun t ht => h t ht s hs
  have hstaying : stayingRoots roots = roots :=
    List.filter_eq_self.mpr fun s hs => beq_iff_eq.mpr (hzero s hs)
  have hmoving : movingRoots roots = [] := by
    refine List.eq_nil_iff_forall_not_mem.mpr fun s hs => ?_
    obtain ⟨hmem, hcount⟩ := mem_movingRoots.mp hs
    exact hcount (hzero s hmem)
  rw [normalize, hstaying, hmoving]
  rfl

/-- **Idempotence.** Repairing a repaired outline changes nothing, the order of siblings included.
What repair leaves as it is are the lists of roots of which none lies inside another one. -/
theorem normalize_idempotent (raw : List Symbol) :
    normalize (normalize raw).roots = normalize raw ∧
      (normalize raw = ⟨raw⟩ ↔ ∀ s ∈ raw, ∀ t ∈ raw, s.range.strictlyContains t.range = false) := by
  refine ⟨?_, ?_, normalize_of_not_strictlyContains⟩
  · exact normalize_of_not_strictlyContains fun s hs t ht =>
      not_strictlyContains_of_mem_normalize hs ht
  · intro hfixed s hs t ht
    have hroots : (normalize raw).roots = raw := congrArg Outline.roots hfixed
    exact not_strictlyContains_of_mem_normalize (hroots.symm ▸ hs) (hroots.symm ▸ ht)

end Outline

end OutlineNav
