import OutlineNav.Proofs.Extremes
import OutlineNav.Proofs.Levels

/-!
# Where a search lands

The search for a position goes down through the targets that contain it. In an orderly outline,
where the members of a level lie apart from each other and behind the name of their owner, the start
of a target leads exactly to that target (`land_start`), through the targets around it and through
no others.

The first half holds of every outline: the scan of a level is decided by the last member that
contains the position (`land_eq_search`), and what the search returns are targets, owner and level
belonging together (`isLanding_land`).
-/

namespace OutlineNav

/-! ## The scan of a level -/

theorem lastContaining?_concat (position : Position) (level : List Located) (l : Located) :
    lastContaining? position (level ++ [l]) =
      if l.symbol.range.contains position then some l else lastContaining? position level := by
  rw [lastContaining?, List.filter_append, List.filter_singleton]
  cases l.symbol.range.contains position with
  | true => exact List.getLast?_concat
  | false => rw [cond_false, List.append_nil, if_neg Bool.false_ne_true, lastContaining?]

theorem lastContaining?_eq_none {position : Position} {level : List Located} :
    lastContaining? position level = none ↔
      ∀ l ∈ level, l.symbol.range.contains position = false := by
  rw [lastContaining?, List.getLast?_eq_none_iff, List.filter_eq_nil_iff]
  simp only [Bool.not_eq_true]

theorem lastContaining?_append_cons {position : Position} {before after : List Located}
    {l : Located} (hl : l.symbol.range.contains position = true)
    (hafter : ∀ m ∈ after, m.symbol.range.contains position = false) :
    lastContaining? position (before ++ l :: after) = some l := by
  have hnil : after.filter (·.symbol.range.contains position) = [] :=
    List.filter_eq_nil_iff.mpr fun m hm => by rw [hafter m hm]; exact Bool.false_ne_true
  rw [lastContaining?, List.filter_append, List.filter_cons, if_pos hl, hnil]
  exact List.getLast?_concat

theorem exists_split_of_lastContaining? {position : Position} {level : List Located} {l : Located}
    (h : lastContaining? position level = some l) :
    ∃ before after, level = before ++ l :: after ∧ l.symbol.range.contains position = true ∧
      ∀ m ∈ after, m.symbol.range.contains position = false := by
  obtain ⟨front, hfilter⟩ := List.getLast?_eq_some_iff.mp h
  obtain ⟨before, rest, rfl, -, hrest⟩ := List.filter_eq_append_iff.mp hfilter
  obtain ⟨skipped, after, rfl, -, hl, hafter⟩ := List.filter_eq_cons_iff.mp hrest
  refine ⟨before ++ skipped, after, (List.append_assoc ..).symm, hl, fun m hm => ?_⟩
  simpa using List.filter_eq_nil_iff.mp hafter m hm

theorem Scan.run_concat (position : Position) (owner : Option Located) (level : List Located)
    (l : Located) :
    Scan.run position owner (level ++ [l]) =
      Scan.step position owner (Scan.run position owner level) l := by
  rw [Scan.run, List.foldl_append, List.foldl_cons, List.foldl_nil, ← Scan.run]

/-- The last member that contains the position decides the scan. -/
theorem Scan.run_eq (position : Position) (owner : Option Located) (level : List Located) :
    (lastContaining? position level = none → Scan.run position owner level = ⟨owner, none, none⟩) ∧
    ∀ l, lastContaining? position level = some l →
      (l.stops position = true → Scan.run position owner level = ⟨owner, some l, none⟩) ∧
      (l.stops position = false → (Scan.run position owner level).descent = some l) := by
  induction level using List.reverseRecOn with
  | nil => exact ⟨fun _ => rfl, fun l h => by cases h⟩
  | append_singleton level m ih =>
      rw [Scan.run_concat, lastContaining?_concat, Scan.step]
      cases hm : m.symbol.range.contains position with
      | false => simpa [hm] using ih
      | true =>
          refine ⟨nofun, fun l h => ?_⟩
          obtain rfl : m = l := Option.some.inj h
          constructor
          · intro hstops
            simp [hstops]
          · intro hstops
            simp [hstops]

theorem land_of_descent_none {position : Position} {owner : Option Located} {level : List Located}
    (h : (Scan.run position owner level).descent = none) :
    land position owner level = ⟨(Scan.run position owner level).parent,
      (Scan.run position owner level).current, level⟩ := by
  rw [land]
  split
  · next hfound => rw [h] at hfound; cases hfound
  · rfl

theorem land_of_descent_some {position : Position} {owner : Option Located} {level : List Located}
    {l : Located} (h : (Scan.run position owner level).descent = some l) :
    land position owner level = land position (some l) l.members := by
  rw [land]
  split
  · next hfound => rw [h] at hfound; cases hfound; rfl
  · next hfound => rw [h] at hfound; cases hfound

/-- Only the last containing member of a level matters. -/
theorem land_eq_search (position : Position) (owner : Option Located) (level : List Located) :
    land position owner level = search position owner level := by
  fun_induction search position owner level with
  | case1 owner level hlast =>
      have hrun := (Scan.run_eq position owner level).1 hlast
      rw [land_of_descent_none (by rw [hrun]), hrun]
  | case2 owner level l hlast hstops =>
      have hrun := ((Scan.run_eq position owner level).2 l hlast).1 hstops
      rw [land_of_descent_none (by rw [hrun]), hrun]
  | case3 owner level l hlast hstops ih =>
      have hrun := ((Scan.run_eq position owner level).2 l hlast).2 (by simpa using hstops)
      rw [land_of_descent_some hrun, ih]

theorem search_of_none {position : Position} {owner : Option Located} {level : List Located}
    (h : lastContaining? position level = none) :
    search position owner level = ⟨owner, none, level⟩ := by
  rw [search]
  split
  · rfl
  · next hlast => rw [h] at hlast; cases hlast

theorem search_of_some {position : Position} {owner : Option Located} {level : List Located}
    {l : Located} (h : lastContaining? position level = some l) :
    search position owner level =
      if l.stops position then ⟨owner, some l, level⟩ else search position (some l) l.members := by
  rw [search]
  split
  · next hlast => rw [h] at hlast; cases hlast
  · next hlast => rw [h] at hlast; cases hlast; rfl

/-- The search ends at the last containing member of a level, or between the members of one. -/
theorem search_current (position : Position) (owner : Option Located) (level : List Located) :
    (search position owner level).current =
      lastContaining? position (search position owner level).level := by
  fun_induction search position owner level with
  | case1 owner level hlast => exact hlast.symm
  | case2 owner level l hlast hstops => exact hlast.symm
  | case3 owner level l hlast hstops ih => exact ih

theorem land_current (position : Position) (owner : Option Located) (level : List Located) :
    (land position owner level).current =
      lastContaining? position (land position owner level).level := by
  rw [land_eq_search, search_current]

/-- A place between or at the members of a level of the outline. -/
structure Outline.IsLanding (o : Outline) (landing : Landing) : Prop where
  parent : o.IsOwner landing.parent
  level : landing.level = o.levelBelow landing.parent
  current : ∀ l ∈ landing.current, l ∈ landing.level

theorem isLanding_search {o : Outline} (position : Position) (owner : Option Located)
    (level : List Located) (howner : o.IsOwner owner) (hlevel : level = o.levelBelow owner) :
    o.IsLanding (search position owner level) := by
  fun_induction search position owner level with
  | case1 owner level hlast => exact ⟨howner, hlevel, nofun⟩
  | case2 owner level l hlast hstops =>
      refine ⟨howner, hlevel, ?_⟩
      rintro _ ⟨⟩
      exact mem_of_lastContaining? hlast
  | case3 owner level l hlast hstops ih =>
      have hl := mem_of_lastContaining? hlast
      rw [hlevel, howner.mem_levelBelow] at hl
      exact ih hl.1.isOwner rfl

theorem isLanding_land (o : Outline) (position : Position) :
    o.IsLanding (land position none o.topLevel) := by
  rw [land_eq_search]
  exact isLanding_search position none o.topLevel (Outline.isOwner_none o) rfl

/-! ## Levels without overlaps -/

theorem Range.contains_start {r : Range} (h : r.start ≤ r.stop) : r.contains r.start = true := by
  simp only [Range.contains, Bool.and_eq_true, decide_eq_true_eq, Position.le_iff_rank] at *
  omega

/-- No member ends before it starts, and no position lies in two members. -/
structure Apart (level : List Located) : Prop where
  start_le_stop : ∀ l ∈ level, l.start ≤ l.symbol.range.stop
  apart : ∀ a ∈ level, ∀ b ∈ level, a ≠ b →
    ∀ position, ¬(a.symbol.range.contains position ∧ b.symbol.range.contains position)

namespace Apart

variable {level : List Located} (h : Apart level)

include h

theorem eq_of_contains {a b : Located} (ha : a ∈ level) (hb : b ∈ level) {position : Position}
    (hina : a.symbol.range.contains position = true)
    (hinb : b.symbol.range.contains position = true) : a = b := by
  by_contra hne
  exact h.apart a ha b hb hne position ⟨hina, hinb⟩

theorem eq_of_start {a b : Located} (ha : a ∈ level) (hb : b ∈ level) (heq : a.start = b.start) :
    a = b := by
  have hina : a.symbol.range.contains a.start = true := Range.contains_start (h.start_le_stop a ha)
  have hinb : b.symbol.range.contains b.start = true := Range.contains_start (h.start_le_stop b hb)
  exact h.eq_of_contains ha hb hina (heq ▸ hinb)

theorem lastContaining?_eq {l : Located} (hl : l ∈ level) {position : Position}
    (hin : l.symbol.range.contains position = true) : lastContaining? position level = some l := by
  cases hlast : lastContaining? position level with
  | none => rw [lastContaining?_eq_none.mp hlast l hl] at hin; cases hin
  | some m =>
      obtain ⟨hm, hinm⟩ := List.mem_filter.mp (List.mem_of_getLast? hlast)
      rw [h.eq_of_contains hm hl hinm hin]

end Apart

/-! ## Orderly outlines -/

/-- No target ends before it starts or is named before it starts; the members of a level share no
position; the members of a target lie inside of it, behind its name. -/
structure Outline.Orderly (o : Outline) : Prop where
  start_le_stop : ∀ l, o.IsTarget l → l.start ≤ l.symbol.range.stop
  start_le_name : ∀ l, o.IsTarget l → l.start ≤ l.symbol.selectionRange.stop
  apart : ∀ owner, o.IsOwner owner → ∀ a ∈ o.levelBelow owner, ∀ b ∈ o.levelBelow owner, a ≠ b →
    ∀ position, ¬(a.symbol.range.contains position ∧ b.symbol.range.contains position)
  inside : ∀ l, o.IsTarget l → ∀ m ∈ l.members, l.symbol.range.containsRange m.symbol.range
  behind_name : ∀ l, o.IsTarget l → ∀ m ∈ l.members, l.symbol.selectionRange.stop < m.start

theorem Outline.isTarget_iff_mem_located {o : Outline} {l : Located} :
    o.IsTarget l ↔ l ∈ o.located ∧ l.symbol.isNavigable = true := by
  rw [Outline.mem_located, Outline.IsTarget]

/-- Two ranges share no position if one of them ends before the other starts. -/
theorem Range.not_contains_both {r s : Range} (hr : r.start ≤ r.stop) (hs : s.start ≤ s.stop) :
    (∀ position, ¬(r.contains position ∧ s.contains position)) ↔
      r.stop < s.start ∨ s.stop < r.start := by
  simp only [Range.contains, Bool.and_eq_true, decide_eq_true_eq, Position.le_iff_rank,
    Position.lt_iff_rank] at *
  constructor
  · intro h
    have hrs := h r.start
    have hsr := h s.start
    omega
  · intro h position hboth
    omega

/-- The level of the topmost targets and the level of each target. -/
def Outline.levels (o : Outline) : List (List Located) :=
  o.topLevel :: (o.located.filter (·.symbol.isNavigable)).map Located.members

theorem Outline.mem_levels {o : Outline} {level : List Located} :
    level ∈ o.levels ↔ ∃ owner, o.IsOwner owner ∧ o.levelBelow owner = level := by
  rw [Outline.levels, List.mem_cons, List.mem_map]
  constructor
  · rintro (rfl | ⟨l, hl, rfl⟩)
    · exact ⟨none, o.isOwner_none, rfl⟩
    · have ht := Outline.isTarget_iff_mem_located.mpr (List.mem_filter.mp hl)
      exact ⟨some l, ht.isOwner, rfl⟩
  · rintro ⟨_ | l, howner, rfl⟩
    · exact .inl rfl
    · have hl := Outline.isTarget_iff_mem_located.mp (howner l rfl)
      exact .inr ⟨l, List.mem_filter.mpr hl, rfl⟩

theorem Outline.orderly_iff {o : Outline} :
    o.Orderly ↔
      (∀ l ∈ o.located, l.symbol.isNavigable = true →
        l.start ≤ l.symbol.range.stop ∧ l.start ≤ l.symbol.selectionRange.stop ∧
          ∀ m ∈ l.members, l.symbol.range.containsRange m.symbol.range = true ∧
            l.symbol.selectionRange.stop < m.start) ∧
      ∀ level ∈ o.levels, ∀ a ∈ level, ∀ b ∈ level, a ≠ b →
        a.symbol.range.stop < b.start ∨ b.symbol.range.stop < a.start := by
  constructor
  · intro h
    constructor
    · intro l hl hnav
      have ht : o.IsTarget l := Outline.isTarget_iff_mem_located.mpr ⟨hl, hnav⟩
      exact ⟨h.start_le_stop l ht, h.start_le_name l ht,
        fun m hm => ⟨h.inside l ht m hm, h.behind_name l ht m hm⟩⟩
    · intro level hlevel a ha b hb hne
      obtain ⟨owner, howner, rfl⟩ := Outline.mem_levels.mp hlevel
      have hsa := h.start_le_stop a (howner.mem_levelBelow.mp ha).1
      have hsb := h.start_le_stop b (howner.mem_levelBelow.mp hb).1
      exact (Range.not_contains_both hsa hsb).mp (h.apart owner howner a ha b hb hne)
  · rintro ⟨hown, hlevels⟩
    have htarget : ∀ l, o.IsTarget l → _ := fun l ht =>
      hown l (Outline.isTarget_iff_mem_located.mp ht).1 ht.2
    refine ⟨fun l ht => (htarget l ht).1, fun l ht => (htarget l ht).2.1, ?_,
      fun l ht m hm => ((htarget l ht).2.2 m hm).1, fun l ht m hm => ((htarget l ht).2.2 m hm).2⟩
    intro owner howner a ha b hb hne
    have hsa := (htarget a (howner.mem_levelBelow.mp ha).1).1
    have hsb := (htarget b (howner.mem_levelBelow.mp hb).1).1
    exact (Range.not_contains_both hsa hsb).mpr
      (hlevels _ (Outline.mem_levels.mpr ⟨owner, howner, rfl⟩) a ha b hb hne)

instance (o : Outline) : Decidable o.Orderly := decidable_of_iff _ Outline.orderly_iff.symm

namespace Outline.Orderly

variable {o : Outline} (h : o.Orderly)

include h

theorem apart_levelBelow {owner : Option Located} (howner : o.IsOwner owner) :
    Apart (o.levelBelow owner) :=
  ⟨fun l hl => h.start_le_stop l (howner.mem_levelBelow.mp hl).1, h.apart owner howner⟩

theorem contains_start {t : Located} (ht : o.IsTarget t) :
    t.symbol.range.contains t.start = true :=
  Range.contains_start (h.start_le_stop t ht)

theorem lastContaining?_level {t : Located} (ht : o.IsTarget t) {position : Position}
    (hin : t.symbol.range.contains position = true) :
    lastContaining? position (o.levelBelow (o.enclosing? t.path)) = some t :=
  (h.apart_levelBelow (Outline.isOwner_enclosing? o _)).lastContaining?_eq ht.mem_level hin

/-- A search inside of a target passes through the level of the target: every target around it
contains the position behind its name. -/
theorem search_level {position : Position} {t : Located} (ht : o.IsTarget t)
    (hin : t.symbol.range.contains position = true) :
    search position none o.topLevel =
      search position (o.enclosing? t.path) (o.levelBelow (o.enclosing? t.path)) := by
  induction hn : t.path.length using Nat.strongRecOn generalizing t with
  | ind n ih =>
      cases howner : o.enclosing? t.path with
      | none => rfl
      | some b =>
          obtain ⟨hb, hpre, hne, -⟩ := Outline.enclosing?_eq_some howner
          have htb : t ∈ b.members := hb.mem_members.mpr ⟨ht, howner⟩
          have hlt : b.path.length < n := by
            have := hpre.length_le
            have := mt hpre.eq_of_length hne
            omega
          have hinside := h.inside b hb t htb
          have hbehind := h.behind_name b hb t htb
          simp only [Range.contains, Range.containsRange, Bool.and_eq_true, decide_eq_true_eq,
            Position.le_iff_rank, Position.lt_iff_rank, Located.start] at hin hinside hbehind
          have hinb : b.symbol.range.contains position = true := by
            simp only [Range.contains, Bool.and_eq_true, decide_eq_true_eq, Position.le_iff_rank]
            omega
          have hstops : b.stops position = false := by
            rw [Located.stops, Bool.or_eq_false_iff, decide_eq_false_iff_not, Position.le_iff_rank,
              List.isEmpty_eq_false_iff]
            exact ⟨by omega, List.ne_nil_of_mem htb⟩
          rw [ih _ hlt hb hinb rfl,
            search_of_some (h.lastContaining?_level hb hinb), hstops]
          rfl

theorem search_start {t : Located} (ht : o.IsTarget t) :
    search t.start none o.topLevel =
      ⟨o.enclosing? t.path, some t, o.levelBelow (o.enclosing? t.path)⟩ := by
  have hin := h.contains_start ht
  have hstops : t.stops t.start = true := by
    rw [Located.stops, decide_eq_true (h.start_le_name t ht), Bool.true_or]
  rw [h.search_level ht hin, search_of_some (h.lastContaining?_level ht hin), hstops]
  rfl

theorem land_start {t : Located} (ht : o.IsTarget t) :
    land t.start none o.topLevel =
      ⟨o.enclosing? t.path, some t, o.levelBelow (o.enclosing? t.path)⟩ :=
  (land_eq_search ..).trans (h.search_start ht)

end Outline.Orderly

/-- The start of a target leads to the target, with the nearest target around it as the parent. -/
theorem resolve_start {o : Outline} (h : o.Orderly) {t : Located} (ht : o.IsTarget t) :
    (resolve o t.start).current = some t ∧ (resolve o t.start).parent = o.enclosing? t.path := by
  rw [resolve, h.land_start ht]
  exact ⟨rfl, rfl⟩

/-- The field inside of the forward declaration of the sample, which is no target itself. -/
def samplePrice : Located := ⟨[0, 0, 0], .block "price" "" .field 6 8 []⟩

theorem resolve_start_sample :
    Outline.sample.Orderly ∧ Outline.sample.IsTarget samplePrice ∧
      (resolve Outline.sample samplePrice.start).current = some samplePrice ∧
      (resolve Outline.sample samplePrice.start).parent.map (·.path) = some [0] := by
  have h : Outline.sample.Orderly := by decide
  have ht : Outline.sample.IsTarget samplePrice := ⟨by decide, by decide⟩
  obtain ⟨hcurrent, hparent⟩ := resolve_start h ht
  refine ⟨h, ht, hcurrent, ?_⟩
  rw [hparent]
  decide

end OutlineNav
