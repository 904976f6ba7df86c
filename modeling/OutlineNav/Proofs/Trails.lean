import Mathlib.Data.List.Lex
import Mathlib.Data.Prod.Lex
import OutlineNav.Proofs.Landing

/-!
# Trails

The trail of a position is the way of a search for it: on every level the member that the search
decides for, and whether it goes on below that member. Trails are compared turn by turn, by the
start of the member, then by its address, and an end counts as more than a way on.

In a staggered outline, siblings may overlap, but one that starts in the middle of another is listed
behind it. There a caret that is sent to a symbol, be it one behind the caret or the current one,
gets a greater trail; or it keeps the trail and goes back to the start of the current symbol; or it
does not move at all (`progress_lt`). Sending the caret to the current symbol makes it go back in
the document, and sending it to the next one makes it go on, but neither ever makes the trail less.
-/

namespace OutlineNav

/-! ## Staggered outlines -/

/-- No target ends before it starts, the members of a target lie inside of it, and no member of a
level starts inside of one listed behind it, unless both start at the same place. -/
structure Outline.Staggered (o : Outline) : Prop where
  start_le_stop : ∀ l, o.IsTarget l → l.start ≤ l.symbol.range.stop
  inside : ∀ l, o.IsTarget l → ∀ m ∈ l.members, l.symbol.range.containsRange m.symbol.range
  listed : ∀ owner, o.IsOwner owner →
    (o.levelBelow owner).Pairwise fun a b => b.symbol.range.contains a.start → a.start ≤ b.start

theorem Outline.staggered_iff {o : Outline} :
    o.Staggered ↔
      (∀ l ∈ o.located, l.symbol.isNavigable = true → l.start ≤ l.symbol.range.stop ∧
        ∀ m ∈ l.members, l.symbol.range.containsRange m.symbol.range = true) ∧
      ∀ level ∈ o.levels,
        level.Pairwise fun a b => b.symbol.range.contains a.start → a.start ≤ b.start := by
  constructor
  · intro h
    constructor
    · intro l hl hnav
      have ht : o.IsTarget l := Outline.isTarget_iff_mem_located.mpr ⟨hl, hnav⟩
      exact ⟨h.start_le_stop l ht, h.inside l ht⟩
    · intro level hlevel
      obtain ⟨owner, howner, rfl⟩ := Outline.mem_levels.mp hlevel
      exact h.listed owner howner
  · rintro ⟨hown, hlevels⟩
    have htarget : ∀ l, o.IsTarget l → _ := fun l ht =>
      hown l (Outline.isTarget_iff_mem_located.mp ht).1 ht.2
    exact ⟨fun l ht => (htarget l ht).1, fun l ht => (htarget l ht).2,
      fun owner howner => hlevels _ (Outline.mem_levels.mpr ⟨owner, howner, rfl⟩)⟩

instance (o : Outline) : Decidable o.Staggered := decidable_of_iff _ Outline.staggered_iff.symm

/-! ## Turns -/

/-- What a search decides on a level: the start of a member, its address, and whether the search
ends there. -/
abbrev Turn := Nat ×ₗ SymbolPath ×ₗ Bool

def Located.turn (l : Located) (position : Position) : Turn :=
  toLex (l.start.rank, toLex (l.path, l.stops position))

theorem turn_lt_of_start {a b : Located} (h : a.start < b.start) (p q : Position) :
    a.turn p < b.turn q :=
  Prod.Lex.toLex_lt_toLex.mpr (.inl (Position.lt_iff_rank.mp h))

theorem turn_lt_of_path {a b : Located} (hstart : a.start ≤ b.start) (hpath : a.path < b.path)
    (p q : Position) : a.turn p < b.turn q := by
  rcases Nat.lt_or_eq_of_le (Position.le_iff_rank.mp hstart) with hlt | heq
  · exact Prod.Lex.toLex_lt_toLex.mpr (.inl hlt)
  · exact Prod.Lex.toLex_lt_toLex.mpr (.inr ⟨heq, Prod.Lex.toLex_lt_toLex.mpr (.inl hpath)⟩)

theorem turn_lt_of_stops {l : Located} {p q : Position} (hp : l.stops p = false)
    (hq : l.stops q = true) : l.turn p < l.turn q := by
  have hlt : false < true := by decide
  rw [Located.turn, Located.turn, hp, hq]
  exact Prod.Lex.toLex_lt_toLex.mpr (.inr ⟨rfl, Prod.Lex.toLex_lt_toLex.mpr (.inr ⟨rfl, hlt⟩)⟩)

theorem Located.stops_of_le {l : Located} {p q : Position} (h : l.stops p = true) (hle : q ≤ p) :
    l.stops q = true := by
  rw [Located.stops, Bool.or_eq_true, decide_eq_true_eq] at h ⊢
  refine h.imp_left fun hp => ?_
  rw [Position.le_iff_rank] at *
  omega

/-- The turns of a search, from the outermost level on. -/
def trail (position : Position) (level : List Located) : List Turn :=
  match _found : lastContaining? position level with
  | none => []
  | some l => l.turn position :: if l.stops position then [] else trail position l.members
termination_by levelSize level
decreasing_by exact levelSize_members_lt_of_mem (mem_of_lastContaining? _found)

theorem trail_of_none {position : Position} {level : List Located}
    (h : lastContaining? position level = none) : trail position level = [] := by
  rw [trail]
  split
  · rfl
  · next hlast => rw [h] at hlast; cases hlast

theorem trail_of_some {position : Position} {level : List Located} {l : Located}
    (h : lastContaining? position level = some l) :
    trail position level =
      l.turn position :: if l.stops position then [] else trail position l.members := by
  rw [trail]
  split
  · next hlast => rw [h] at hlast; cases hlast
  · next hlast => rw [h] at hlast; cases hlast; rfl

theorem trail_lt_of_turn {p q : Position} {level : List Located} {a b : Located}
    (ha : lastContaining? p level = some a) (hb : lastContaining? q level = some b)
    (h : a.turn p < b.turn q) : trail p level < trail q level := by
  rw [trail_of_some ha, trail_of_some hb]
  exact List.cons_lt_cons_iff.mpr (.inl h)

/-! ## What a move does to the trail -/

/-- Trails first; on the same trail, the position further to the front. -/
def progress (level : List Located) (position : Position) : List Turn ×ₗ ℕᵒᵈ :=
  toLex (trail position level, OrderDual.toDual position.rank)

theorem progress_lt_iff {level : List Located} {p q : Position} :
    progress level p < progress level q ↔
      trail p level < trail q level ∨ trail p level = trail q level ∧ q < p := by
  rw [progress, progress, Prod.Lex.toLex_lt_toLex, OrderDual.toDual_lt_toDual, Position.lt_iff_rank]

/-- A symbol that a caret may be sent to from where the search for it has ended. -/
def Landing.Leads (landing : Landing) (position : Position) (l : Located) : Prop :=
  landing.current = some l ∨ l ∈ landing.level ∧ position < l.start

namespace Outline.Staggered

variable {o : Outline} (h : o.Staggered)

include h

/-- The search for a position in a member decides for that member or for one with a greater turn. -/
theorem lastContaining?_of_contains {owner : Option Located} (howner : o.IsOwner owner)
    {c : Located} (hc : c ∈ o.levelBelow owner) {x : Position}
    (hin : c.symbol.range.contains x = true) :
    ∃ m, lastContaining? x (o.levelBelow owner) = some m ∧ (m = c ∨ ∀ y, c.turn y < m.turn x) := by
  cases hlast : lastContaining? x (o.levelBelow owner) with
  | none => rw [lastContaining?_eq_none.mp hlast c hc] at hin; cases hin
  | some m =>
      refine ⟨m, rfl, ?_⟩
      obtain ⟨before, after, hsplit, hinm, hafter⟩ := exists_split_of_lastContaining? hlast
      have hlisted := h.listed owner howner
      have hpaths := o.pairwise_levelBelow owner
      rw [hsplit] at hc hlisted hpaths
      rcases List.mem_append.mp hc with hbefore | hc
      · have hstart := (List.pairwise_append.mp hlisted).2.2 c hbefore m (List.mem_cons_self ..)
        have hpath := (List.pairwise_append.mp hpaths).2.2 c hbefore m (List.mem_cons_self ..)
        refine .inr fun y => turn_lt_of_path ?_ hpath y x
        -- otherwise the start of `c` would lie between the start of `m` and the position
        simp only [Range.contains, Bool.and_eq_true, decide_eq_true_eq, Position.le_iff_rank,
          Located.start] at hin hinm hstart ⊢
        omega
      · rcases List.mem_cons.mp hc with rfl | hc
        · exact .inl rfl
        · rw [hafter c hc] at hin
          cases hin

theorem contains_start {l : Located} (hl : o.IsTarget l) : l.symbol.range.contains l.start = true :=
  Range.contains_start (h.start_le_stop l hl)

/-- The level that a search inside of a target ends on lies inside of the target. -/
theorem containsRange_search (position : Position) (owner : Option Located) (level : List Located)
    (howner : o.IsOwner owner) (hlevel : level = o.levelBelow owner) {c : Located}
    (hc : ∀ m ∈ level, c.symbol.range.containsRange m.symbol.range) :
    ∀ l ∈ (search position owner level).level, c.symbol.range.containsRange l.symbol.range := by
  fun_induction search position owner level with
  | case1 owner level hlast => exact hc
  | case2 owner level m hlast hstops => exact hc
  | case3 owner level m hlast hstops ih =>
      have hm := mem_of_lastContaining? hlast
      have hcm := hc m hm
      rw [hlevel, howner.mem_levelBelow] at hm
      refine ih hm.1.isOwner rfl fun l hl => ?_
      have hml := h.inside m hm.1 l hl
      simp only [Range.containsRange, Bool.and_eq_true, decide_eq_true_eq,
        Position.le_iff_rank] at hcm hml ⊢
      omega

section

variable {owner : Option Located} (howner : o.IsOwner owner) {y : Position} {c : Located}
  (hlast : lastContaining? y (o.levelBelow owner) = some c)

include howner hlast

/-- Back to the start of the current symbol, which may be the start of a later one as well. -/
theorem progress_lt_start (hstops : c.stops y = true) :
    c.start = y ∨ progress (o.levelBelow owner) y < progress (o.levelBelow owner) c.start := by
  obtain ⟨-, -, -, hiny, -⟩ := exists_split_of_lastContaining? hlast
  have hle : c.start ≤ y := of_decide_eq_true (Bool.and_eq_true_iff.mp hiny).1
  have hc := mem_of_lastContaining? hlast
  have hin := h.contains_start (howner.mem_levelBelow.mp hc).1
  obtain ⟨m, hm, rfl | hturn⟩ := h.lastContaining?_of_contains howner hc hin
  · refine or_iff_not_imp_left.mpr fun hne => progress_lt_iff.mpr (.inr ⟨?_, ?_⟩)
    · have hstops' := Located.stops_of_le hstops hle
      rw [trail_of_some hlast, trail_of_some hm, Located.turn, Located.turn, hstops, hstops']
      rfl
    · have := mt Position.rank_inj hne
      rw [Position.le_iff_rank] at hle
      rw [Position.lt_iff_rank]
      omega
  · exact .inr (progress_lt_iff.mpr (.inl (trail_lt_of_turn hlast hm (hturn y))))

/-- On to a member that starts behind the position. -/
theorem progress_lt_behind {l : Located} (hl : l ∈ o.levelBelow owner) (hlt : y < l.start) :
    progress (o.levelBelow owner) y < progress (o.levelBelow owner) l.start := by
  obtain ⟨-, -, -, hiny, -⟩ := exists_split_of_lastContaining? hlast
  have hle : c.start ≤ y := of_decide_eq_true (Bool.and_eq_true_iff.mp hiny).1
  have hstart : c.start < l.start := by
    rw [Position.lt_iff_rank] at *
    rw [Position.le_iff_rank] at hle
    omega
  have hin := h.contains_start (howner.mem_levelBelow.mp hl).1
  obtain ⟨m, hm, hturn⟩ := h.lastContaining?_of_contains howner hl hin
  refine progress_lt_iff.mpr (.inl (trail_lt_of_turn hlast hm ?_))
  rcases hturn with rfl | hturn
  · exact turn_lt_of_start hstart ..
  · exact (turn_lt_of_start hstart y y).trans (hturn y)

/-- Inside of the member that the search goes on below. -/
theorem progress_lt_below (hstops : c.stops y = false) {x : Position}
    (hin : c.symbol.range.contains x = true)
    (hbelow : progress c.members y < progress c.members x) :
    progress (o.levelBelow owner) y < progress (o.levelBelow owner) x := by
  obtain ⟨m, hm, hturn⟩ :=
    h.lastContaining?_of_contains howner (mem_of_lastContaining? hlast) hin
  rw [progress_lt_iff]
  rcases hturn with rfl | hturn
  · cases hstops' : m.stops x with
    | true => exact .inl (trail_lt_of_turn hlast hm (turn_lt_of_stops hstops hstops'))
    | false =>
        rw [trail_of_some hlast, trail_of_some hm, Located.turn, Located.turn, hstops, hstops',
          if_neg Bool.false_ne_true, List.cons_lt_cons_self, List.cons.injEq, and_iff_right rfl]
        exact progress_lt_iff.mp hbelow
  · exact .inl (trail_lt_of_turn hlast hm (hturn y))

end

/-- Sent to a symbol, a caret stays where it is or makes progress. -/
theorem progress_lt (y : Position) (owner : Option Located) (level : List Located)
    (howner : o.IsOwner owner) (hlevel : level = o.levelBelow owner) {l : Located}
    (hl : (search y owner level).Leads y l) :
    l.start = y ∨ progress level y < progress level l.start := by
  fun_induction search y owner level with
  | case1 owner level hlast =>
      subst hlevel
      rcases hl with hcurrent | ⟨hl, -⟩
      · cases hcurrent
      · have hin := h.contains_start (howner.mem_levelBelow.mp hl).1
        obtain ⟨m, hm, -⟩ := h.lastContaining?_of_contains howner hl hin
        refine .inr (progress_lt_iff.mpr (.inl ?_))
        rw [trail_of_none hlast, trail_of_some hm]
        exact List.nil_lt_cons ..
  | case2 owner level c hlast hstops =>
      subst hlevel
      rcases hl with hcurrent | ⟨hl, hlt⟩
      · obtain rfl : c = l := Option.some.inj hcurrent
        exact h.progress_lt_start howner hlast hstops
      · exact .inr (h.progress_lt_behind howner hlast hl hlt)
  | case3 owner level c hlast hstops ih =>
      subst hlevel
      have hc := (howner.mem_levelBelow.mp (mem_of_lastContaining? hlast)).1
      have hlanding := isLanding_search y (some c) c.members hc.isOwner rfl
      have hmem := hl.elim (hlanding.current l) And.left
      have htarget := (hlanding.parent.mem_levelBelow.mp (hlanding.level ▸ hmem)).1
      have hinside :=
        h.containsRange_search y (some c) c.members hc.isOwner rfl (h.inside c hc) l hmem
      have hin : c.symbol.range.contains l.start = true := by
        have hle := h.start_le_stop l htarget
        simp only [Range.contains, Range.containsRange, Bool.and_eq_true, decide_eq_true_eq,
          Position.le_iff_rank, Located.start] at hinside hle ⊢
        omega
      exact (ih hc.isOwner rfl hl).imp_right
        (h.progress_lt_below howner hlast (by simpa using hstops) hin)

end Outline.Staggered

end OutlineNav
