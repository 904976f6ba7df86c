import OutlineNav.Proofs.Neighbours

/-!
# Searches in two outlines

Two outlines are searched for one position. If their levels correspond to each other in such a way
that the last containing members do, and what a level offers on either side of the position, then
the searches go down through corresponding targets and find corresponding ones
(`Correspondence.fields`).

A search ends on the last containing member of a level, or on a level without one (`land_current`),
so that nothing but the parent has to be found by going down (`Correspondence.search_rel`).
-/

namespace OutlineNav

/-- The members of a level besides the last one that contains the position. -/
def besides (position : Position) (level : List Located) : List Located :=
  level.filter fun l => (lastContaining? position level).all fun c => l.path != c.path

theorem others_land (position : Position) (owner : Option Located) (level : List Located) :
    (land position owner level).others = besides position (land position owner level).level := by
  rw [besides, ← land_current]
  rfl

/-- Whether a search ends at a member does not depend on more than its name and how many members it
has. -/
theorem stops_congr {l l' : Located} (hname : l.symbol.selectionRange = l'.symbol.selectionRange)
    (hlength : l.members.length = l'.members.length) (position : Position) :
    l.stops position = l'.stops position := by
  have hempty : l.members.isEmpty = l'.members.isEmpty := by
    rw [Bool.eq_iff_iff, List.isEmpty_iff_length_eq_zero, List.isEmpty_iff_length_eq_zero, hlength]
  rw [Located.stops, Located.stops, hname, hempty]

theorem eq_none_of_rel_none {R : Located → Located → Prop} {l? : Option Located}
    (h : Option.Rel R none l?) : l? = none := by
  cases h
  rfl

theorem exists_of_rel_some {R : Located → Located → Prop} {l : Located} {l? : Option Located}
    (h : Option.Rel R (some l) l?) : ∃ l', l? = some l' ∧ R l l' := by
  cases h with
  | some h => exact ⟨_, rfl, h⟩

/-- A correspondence of targets and one of levels that a search for the position respects. -/
structure Correspondence (position : Position) (R : Located → Located → Prop)
    (Level : List Located → List Located → Prop) : Prop where
  stops : ∀ {l l'}, R l l' → l.stops position = l'.stops position
  members : ∀ {l l'}, R l l' → Level l.members l'.members
  last : ∀ {level level'}, Level level level' →
    Option.Rel R (lastContaining? position level) (lastContaining? position level')
  child : ∀ {level level'}, Level level level' → Option.Rel R (earliest level) (earliest level')
  previous : ∀ {level level'}, Level level level' →
    Option.Rel R (latest ((besides position level).filter (·.start < position)))
      (latest ((besides position level').filter (·.start < position)))
  next : ∀ {level level'}, Level level level' →
    Option.Rel R (earliest ((besides position level).filter (position < ·.start)))
      (earliest ((besides position level').filter (position < ·.start)))

namespace Correspondence

variable {position : Position} {R : Located → Located → Prop}
  {Level : List Located → List Located → Prop} (h : Correspondence position R Level)

include h

/-- Going down from corresponding levels, both searches end on corresponding levels. -/
theorem search_rel {owner owner' : Option Located} {level level' : List Located}
    (howner : Option.Rel R owner owner') (hlevel : Level level level') :
    Option.Rel R (search position owner level).parent (search position owner' level').parent ∧
      Level (search position owner level).level (search position owner' level').level := by
  fun_induction search position owner level generalizing owner' level' with
  | case1 owner level hlast =>
      have hlast' := eq_none_of_rel_none (hlast ▸ h.last hlevel)
      rw [search_of_none hlast']
      exact ⟨howner, hlevel⟩
  | case2 owner level l hlast hstops =>
      obtain ⟨l', hlast', hl⟩ := exists_of_rel_some (hlast ▸ h.last hlevel)
      rw [search_of_some hlast', if_pos (h.stops hl ▸ hstops)]
      exact ⟨howner, hlevel⟩
  | case3 owner level l hlast hstops ih =>
      obtain ⟨l', hlast', hl⟩ := exists_of_rel_some (hlast ▸ h.last hlevel)
      rw [search_of_some hlast', if_neg (h.stops hl ▸ hstops)]
      exact ih (.some hl) (h.members hl)

theorem child_rel {current current' : Option Located} (hcurrent : Option.Rel R current current') :
    Option.Rel R (current.bind (earliest ·.members)) (current'.bind (earliest ·.members)) := by
  cases hcurrent with
  | none => exact .none
  | some hc => exact h.child (h.members hc)

/-- What is found in corresponding outlines corresponds. -/
theorem fields {o o' : Outline} (hlevel : Level o.topLevel o'.topLevel) :
    List.Forall₂ (Option.Rel R) (resolve o position).fields (resolve o' position).fields := by
  obtain ⟨hparent, hlanding⟩ := h.search_rel Option.Rel.none hlevel
  rw [← land_eq_search, ← land_eq_search] at hparent hlanding
  have hcurrent := h.last hlanding
  have hprevious := h.previous hlanding
  have hnext := h.next hlanding
  rw [← land_current, ← land_current] at hcurrent
  rw [← others_land, ← others_land] at hprevious hnext
  exact .cons hparent (.cons hcurrent (.cons (h.child_rel hcurrent)
    (.cons hprevious (.cons hnext .nil))))

end Correspondence

end OutlineNav
