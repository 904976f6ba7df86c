import OutlineNav.Proofs.Landing

/-!
# The neighbours of a position

What is found around a position in an outline of any shape, relative to the parent that is found:
the current symbol is a member of the parent's level, the previous and the next one are the first of
its best members on either side of the position, and the child is the first of the best members of
the current symbol. Nothing is left out, and all that is found are targets at the addresses they are
found at (`resolve_optimal`).

The search keeps owner and level together on every way out of it (`isLanding_land`); the rest is
what a scan chooses (`isBest_earliest`, `isBest_latest`).
-/

namespace OutlineNav

/-- The symbols around a position, in the order of parent, current, child, previous and next. -/
def Nearest.fields (n : Nearest) : List (Option Located) :=
  [n.parent, n.current, n.child, n.previous, n.next]

/-- Not the current symbol, as far as the addresses tell. -/
def Nearest.IsSibling (n : Nearest) (l : Located) : Prop := ∀ c ∈ n.current, l.path ≠ c.path

/-! ## Choices of a landing -/

section

variable (landing : Landing) (position : Position)

theorem isSibling_nearest_iff (l : Located) :
    (landing.nearest position).IsSibling l ↔
      (landing.current.all fun c => l.path != c.path) = true := by
  rw [Option.all_eq_true]
  exact forall₂_congr fun c _ => bne_iff_ne.symm

theorem isBest_previous :
    IsBest (fun a b => b < a) (fun m => (landing.nearest position).IsSibling m ∧ m.start < position)
      landing.level (landing.nearest position).previous := by
  have h := isBest_latest (fun l => decide (l.start < position) &&
    landing.current.all fun c => l.path != c.path) landing.level
  rw [← List.filter_filter] at h
  refine h.congr fun m => ?_
  rw [isSibling_nearest_iff, Bool.and_eq_true, decide_eq_true_eq, and_comm]

theorem isBest_next :
    IsBest (fun a b => a < b) (fun m => (landing.nearest position).IsSibling m ∧ position < m.start)
      landing.level (landing.nearest position).next := by
  have h := isBest_earliest (fun l => decide (position < l.start) &&
    landing.current.all fun c => l.path != c.path) landing.level
  rw [← List.filter_filter] at h
  refine h.congr fun m => ?_
  rw [isSibling_nearest_iff, Bool.and_eq_true, decide_eq_true_eq, and_comm]

theorem isBest_child :
    IsBest (fun a b => a < b) (fun _ => True) (landing.current.elim [] Located.members)
      (landing.nearest position).child := by
  have hchild : (landing.nearest position).child = landing.current.bind (earliest ·.members) := rfl
  rw [hchild]
  cases landing.current with
  | none => exact List.forall_mem_nil _
  | some c => exact isBest_all isPreference_earlier c.members

end

/-! ## Everything found is a target -/

theorem isTarget_of_mem_fields {o : Outline} {position : Position} {l : Located}
    (hl : some l ∈ (resolve o position).fields) : o.IsTarget l := by
  have h := isLanding_land o position
  generalize hlanding : land position none o.topLevel = landing at h
  have hlevel : ∀ m ∈ landing.level, o.IsTarget m := fun m hm =>
    (h.parent.mem_levelBelow.mp (h.level ▸ hm)).1
  rw [resolve, hlanding] at hl
  simp only [Nearest.fields, List.mem_cons, List.not_mem_nil, or_false] at hl
  rcases hl with hparent | hcurrent | hchild | hprevious | hnext
  · exact h.parent l hparent.symm
  · exact hlevel l (h.current l hcurrent.symm)
  · obtain ⟨c, hc, hleast⟩ := Option.bind_eq_some_iff.mp hchild.symm
    exact ((hlevel c (h.current c hc)).mem_members.mp (earliest_eq_some hleast).1).1
  · have hbest := isBest_previous landing position
    rw [← hprevious] at hbest
    exact hlevel l hbest.mem
  · have hbest := isBest_next landing position
    rw [← hnext] at hbest
    exact hlevel l hbest.mem

/-- Both ways to go on from a symbol, and the symbol itself, are targets. -/
theorem isTarget_of_resolve {o : Outline} (position : Position) {l : Located}
    (h : (resolve o position).current = some l ∨ (resolve o position).next = some l ∨
      (resolve o position).previous = some l) : o.IsTarget l := by
  have hl : some l ∈ (resolve o position).fields := by
    rcases h with h | h | h <;> simp [Nearest.fields, h]
  exact isTarget_of_mem_fields hl

/-- Relative to its parent, what is found around a position is the best there is: the current symbol
is a member of the parent's level, the previous and the next symbol are the first of the latest
members in front of the position and the first of the earliest members behind it, without the
current one, and the child is the first of the earliest members of the current symbol. All that is
found are targets at their addresses. -/
theorem resolve_optimal (o : Outline) (position : Position) :
    let n := resolve o position
    let level := o.levelBelow n.parent
    (∀ c ∈ n.current, c ∈ level) ∧
      IsBest (fun a b => b < a) (fun m => n.IsSibling m ∧ m.start < position) level n.previous ∧
      IsBest (fun a b => a < b) (fun m => n.IsSibling m ∧ position < m.start) level n.next ∧
      IsBest (fun a b => a < b) (fun _ => True) (n.current.elim [] Located.members) n.child ∧
      ∀ l, some l ∈ n.fields → o.IsTarget l := by
  intro n level
  have h := isLanding_land o position
  have hlevel : (land position none o.topLevel).level = level := h.level
  refine ⟨fun c hc => hlevel ▸ h.current c hc, hlevel ▸ isBest_previous _ position,
    hlevel ▸ isBest_next _ position, isBest_child _ position, fun _ => isTarget_of_mem_fields⟩

end OutlineNav
