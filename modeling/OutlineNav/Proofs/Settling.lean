import Mathlib.Data.Fintype.Card
import Mathlib.Data.Fintype.EquivFin
import Mathlib.Data.Finite.Prod
import Mathlib.Logic.Function.Iterate
import OutlineNav.Proofs.Containment
import OutlineNav.Proofs.Descent
import OutlineNav.Proofs.Trails
import OutlineNav.Proofs.TreeWalk

/-!
# Moves that settle

A single caret is moved in one direction over and over. To the previous sibling or to the parent it
never goes on in the document, and without a fallback to the current symbol it never goes back on
the way to the next sibling, so that it comes to rest. With the fallback, moves to the next sibling
send it back as well; it comes to rest where the outline is staggered, by the progress of its trail
(`moves_settle`), and each condition of a staggered outline is needed (`next_never_settles`).
-/

namespace OutlineNav

/-! ## One step -/

/-- Where a move sends a caret that has no symbol to come back to. -/
def Outline.step (o : Outline) (policy : Policy) (direction : Direction) (p : Position) :
    Position :=
  ((destination o policy direction none (.caret p)).map Located.start).getD p

/-- A caret stays, or goes to where the direction leads, or falls back to its current symbol. -/
theorem Outline.step_cases (o : Outline) (policy : Policy) (direction : Direction) (p : Position) :
    o.step policy direction p = p ∨ ∃ l, o.step policy direction p = l.start ∧
      ((resolve o p).toward none direction = some l ∨
        policy.fallbackToCurrent = true ∧ (resolve o p).current = some l) := by
  rw [step]
  cases hdestination : destination o policy direction none (.caret p) with
  | none => exact .inl rfl
  | some l =>
      refine .inr ⟨l, rfl, ?_⟩
      rw [destination, Selection.start_caret] at hdestination
      rcases Option.or_eq_some_iff.mp hdestination with htoward | ⟨-, hcurrent⟩
      · exact .inl htoward
      · rw [Option.ite_none_right_eq_some] at hcurrent
        exact .inr hcurrent

theorem start_le_of_current {o : Outline} {p : Position} {l : Located}
    (h : (resolve o p).current = some l) : l.start ≤ p := by
  have hlast : lastContaining? p (land p none o.topLevel).level = some l :=
    (land_current ..).symm.trans h
  obtain ⟨-, -, -, hin, -⟩ := exists_split_of_lastContaining? hlast
  exact of_decide_eq_true (Bool.and_eq_true_iff.mp hin).1

theorem start_lt_of_previous {o : Outline} {p : Position} {l : Located}
    (h : (resolve o p).previous = some l) : l.start < p := by
  have hbest := isBest_previous (land p none o.topLevel) p
  rw [← resolve, h] at hbest
  exact hbest.1.2

theorem mem_and_lt_of_next {o : Outline} {p : Position} {l : Located}
    (h : (resolve o p).next = some l) :
    l ∈ (land p none o.topLevel).level ∧ p < l.start := by
  have hbest := isBest_next (land p none o.topLevel) p
  rw [← resolve, h] at hbest
  exact ⟨hbest.mem, hbest.1.2⟩

/-- A search goes down through members that contain the position. -/
theorem contains_of_parent_search (p : Position) (owner : Option Located) (level : List Located)
    (howner : ∀ l ∈ owner, l.symbol.range.contains p = true) :
    ∀ l ∈ (search p owner level).parent, l.symbol.range.contains p = true := by
  fun_induction search p owner level with
  | case1 owner level hlast => exact howner
  | case2 owner level c hlast hstops => exact howner
  | case3 owner level c hlast hstops ih =>
      refine ih ?_
      rintro _ ⟨⟩
      obtain ⟨-, -, -, hin, -⟩ := exists_split_of_lastContaining? hlast
      exact hin

theorem start_le_of_parent {o : Outline} {p : Position} {l : Located}
    (h : (resolve o p).parent = some l) : l.start ≤ p := by
  have hparent : l ∈ (search p none o.topLevel).parent := by rwa [← land_eq_search]
  have hin := contains_of_parent_search p none o.topLevel nofun l hparent
  exact of_decide_eq_true (Bool.and_eq_true_iff.mp hin).1

/-! ## Steps that come to rest -/

/-- A function that makes progress wherever it does not stay comes to rest. -/
theorem exists_iterate_fixed {α β : Type*} [Finite α] [Preorder β] {f : α → α} (measure : α → β)
    (h : ∀ x, f x = x ∨ measure x < measure (f x)) (x : α) : ∃ k, f (f^[k] x) = f^[k] x := by
  have : IsTrans α fun a b => measure b < measure a := ⟨fun _ _ _ hab hbc => hbc.trans hab⟩
  have : Std.Irrefl fun a b : α => measure b < measure a := ⟨fun _ => lt_irrefl _⟩
  have hwf := Finite.wellFounded_of_trans_of_irrefl fun a b : α => measure b < measure a
  induction x using hwf.induction with
  | h x ih =>
      rcases h x with hstay | hlt
      · exact ⟨0, hstay⟩
      · obtain ⟨k, hk⟩ := ih (f x) hlt
        exact ⟨k + 1, by rwa [Function.iterate_succ_apply]⟩

instance : Finite Position := by
  refine Finite.of_injective (fun p => (p.line.toFin, p.character.toFin)) fun p q h => ?_
  obtain ⟨hline, hcharacter⟩ := Prod.ext_iff.mp h
  rw [Position.mk.injEq]
  exact ⟨UInt32.toFin_inj.mp hline, UInt32.toFin_inj.mp hcharacter⟩

namespace Outline

variable {o : Outline} {policy : Policy}

theorem step_previous_le (p : Position) : o.step policy .previous p ≤ p := by
  rw [Position.le_iff_rank]
  obtain hstay | ⟨l, hstep, hprevious | ⟨-, hcurrent⟩⟩ := o.step_cases policy .previous p
  · rw [hstay]
  · rw [hstep]
    exact Nat.le_of_lt (Position.lt_iff_rank.mp (start_lt_of_previous hprevious))
  · rw [hstep]
    exact Position.le_iff_rank.mp (start_le_of_current hcurrent)

theorem step_parent_le (p : Position) : o.step policy .parent p ≤ p := by
  rw [Position.le_iff_rank]
  obtain hstay | ⟨l, hstep, hparent | ⟨-, hcurrent⟩⟩ := o.step_cases policy .parent p
  · rw [hstay]
  · rw [hstep]
    exact Position.le_iff_rank.mp (start_le_of_parent hparent)
  · rw [hstep]
    exact Position.le_iff_rank.mp (start_le_of_current hcurrent)

theorem le_step_next (h : policy.fallbackToCurrent = false) (p : Position) :
    p ≤ o.step policy .next p := by
  rw [Position.le_iff_rank]
  obtain hstay | ⟨l, hstep, hnext | ⟨hfallback, -⟩⟩ := o.step_cases policy .next p
  · rw [hstay]
  · rw [hstep]
    exact Nat.le_of_lt (Position.lt_iff_rank.mp (mem_and_lt_of_next hnext).2)
  · rw [h] at hfallback
    cases hfallback

theorem Staggered.progress_lt_step (h : o.Staggered) (p : Position) :
    o.step policy .next p = p ∨
      progress o.topLevel p < progress o.topLevel (o.step policy .next p) := by
  obtain hstay | ⟨l, hstep, hl⟩ := o.step_cases policy .next p
  · exact .inl hstay
  · rw [hstep]
    refine h.progress_lt p none o.topLevel o.isOwner_none rfl ?_
    rw [← land_eq_search]
    rcases hl with hnext | ⟨-, hcurrent⟩
    · exact .inr (mem_and_lt_of_next hnext)
    · exact .inl hcurrent

/-- In one direction, a caret comes to rest, unless the fallback takes moves to the next sibling
back in an outline that is not staggered. -/
theorem exists_step_fixed {direction : Direction} (hdirection : direction ≠ .child)
    (hnext : direction = .next → policy.fallbackToCurrent = true → o.Staggered) (p : Position) :
    ∃ k, o.step policy direction ((o.step policy direction)^[k] p) =
      (o.step policy direction)^[k] p := by
  have eq_or_rank_lt : ∀ {a b : Position}, a ≤ b → a = b ∨ a.rank < b.rank := fun hab =>
    (Nat.eq_or_lt_of_le (Position.le_iff_rank.mp hab)).imp_left Position.rank_inj
  cases direction with
  | previous =>
      refine exists_iterate_fixed (fun q => OrderDual.toDual q.rank) (fun q => ?_) p
      exact eq_or_rank_lt (step_previous_le q)
  | parent =>
      refine exists_iterate_fixed (fun q => OrderDual.toDual q.rank) (fun q => ?_) p
      exact eq_or_rank_lt (step_parent_le q)
  | next =>
      cases hfallback : policy.fallbackToCurrent with
      | false =>
          refine exists_iterate_fixed Position.rank (fun q => ?_) p
          exact (eq_or_rank_lt (le_step_next hfallback q)).imp_left Eq.symm
      | true =>
          exact exists_iterate_fixed (progress o.topLevel) (hnext rfl hfallback).progress_lt_step p
  | child => exact absurd rfl hdirection

end Outline

/-! ## Moves in a document -/

theorem destination_of_ne_child (o : Outline) (policy : Policy) {direction : Direction}
    (hdirection : direction ≠ .child) (staged : Option SymbolPath) (s : Selection) :
    destination o policy direction staged s = destination o policy direction none s := by
  cases direction with
  | previous | next | parent => rfl
  | child => exact absurd rfl hdirection

/-- A move of a single caret is a step, and tells whether the caret has moved. -/
theorem plan_caret_step (o : Outline) (policy : Policy) {direction : Direction}
    (hdirection : direction ≠ .child) (p : Position) (s : Session) :
    (plan o policy direction false [.caret p] s).1.selections =
        [.caret (o.step policy direction p)] ∧
      ((plan o policy direction false [.caret p] s).1.moved = true ↔
        o.step policy direction p ≠ p) := by
  have hselections : (plan o policy direction false [.caret p] s).1.selections =
      [.caret (o.step policy direction p)] := by
    have hplan : (plan o policy direction false [.caret p] s).1.selections =
        [((destination o policy direction ((takeFrame direction s).1[0]?).join
          (.caret p)).map (arrival false)).getD (.caret p)] := rfl
    rw [hplan, destination_of_ne_child o policy hdirection, Outline.step]
    cases destination o policy direction none (.caret p) <;> rfl
  have hmoved : (plan o policy direction false [.caret p] s).1.moved =
      ((plan o policy direction false [.caret p] s).1.selections != [.caret p]) := rfl
  refine ⟨hselections, ?_⟩
  rw [hmoved, hselections, bne_iff_ne, Ne, List.cons.injEq, and_iff_left rfl, Selection.caret,
    Selection.caret, Selection.mk.injEq, and_self_iff]

section

variable {n : Navigator} {fetch : Document → Answer} {d : Document} {o : Outline}
  (ho : (n.outline fetch d).1.outline = o) (hne : o.isEmpty = false) {direction : Direction}
  (hdirection : direction ≠ .child)

include ho hne hdirection

theorem navigate_caret (p : Position) :
    ∃ (outcome : Outcome) (m : Navigator),
      n.navigate fetch d [.caret p] direction false = (outcome, m) ∧
      outcome.selections = [.caret (o.step n.policy direction p)] ∧
      (outcome.moved = true ↔ o.step n.policy direction p ≠ p) ∧
      m.policy = n.policy ∧ (m.outline fetch d).1.outline = o := by
  obtain ⟨s, m, hmove, hpolicy, hkept⟩ :=
    Navigator.navigate_of_outline ho hne [.caret p] direction false
  obtain ⟨hselections, hmoved⟩ := plan_caret_step o n.policy hdirection p s
  exact ⟨_, m, hmove, hselections, hmoved, hpolicy, hkept⟩

/-- Moves in one direction are steps from position to position. -/
theorem walk_carets (k : Nat) (p : Position) :
    ∃ m : Navigator, n.walk fetch d [.caret p] (List.replicate k direction) =
        ([.caret ((o.step n.policy direction)^[k] p)], m) ∧
      m.policy = n.policy ∧ (m.outline fetch d).1.outline = o := by
  induction k generalizing n p with
  | zero => exact ⟨n, rfl, rfl, ho⟩
  | succ k ih =>
      obtain ⟨outcome, m, hmove, hselections, -, hpolicy, hkept⟩ :=
        navigate_caret ho hne hdirection p
      obtain ⟨m', hwalk, hpolicy', hkept'⟩ := ih hkept (o.step n.policy direction p)
      refine ⟨m', ?_, hpolicy'.trans hpolicy, hkept'⟩
      rw [List.replicate_succ, Navigator.walk, hmove, Function.iterate_succ_apply, ← hpolicy]
      rw [← hselections, ← hpolicy] at hwalk
      exact hwalk

/-- Whether one more move changes anything is told by the step. -/
theorem moved_walk_iff (k : Nat) (p : Position) :
    ∃ q m, n.walk fetch d [.caret p] (List.replicate k direction) = ([.caret q], m) ∧
      ((m.navigate fetch d [.caret q] direction false).1.moved = true ↔
        o.step n.policy direction ((o.step n.policy direction)^[k] p) ≠
          (o.step n.policy direction)^[k] p) := by
  obtain ⟨m, hwalk, hpolicy, hkept⟩ := walk_carets ho hne hdirection k p
  obtain ⟨outcome, _, hmove, -, hmoved, -⟩ :=
    navigate_caret hkept hne hdirection ((o.step n.policy direction)^[k] p)
  refine ⟨_, m, hwalk, ?_⟩
  rw [hmove, hmoved, hpolicy]

end

/-- A provider with one answer for every document. -/
def Outline.answer (o : Outline) (_ : Document) : Answer := .ok (some o.roots)

theorem outline_answer {o : Outline} (hne : o.roots ≠ [])
    (hrepaired : ∀ s ∈ o.roots, ∀ t ∈ o.roots, s.range.strictlyContains t.range = false)
    (policy : Policy) (d : Document) :
    ((Navigator.new policy).outline o.answer d).1.outline = o := by
  have hnormal : Outline.normalize o.roots = o :=
    Outline.normalize_of_not_strictlyContains hrepaired
  obtain ⟨s, rest, hroots⟩ := List.exists_cons_of_ne_nil hne
  have hsymbols : (o.answer d).symbols? = some o.roots := by rw [Outline.answer, hroots]; rfl
  have hlookup : (Navigator.new policy).index.lookup d =
      (none, { (Navigator.new policy).index with misses := 1 }) := rfl
  rw [Navigator.outline, Index.getOutline, hlookup]
  simp only [Index.receive, hsymbols]
  exact hnormal

/-- A single caret that is moved in one direction again and again comes to a place that the move
does not change any more: to the previous sibling and to the parent in every outline, to the next
sibling without a fallback in every outline and with it in every staggered one. -/
theorem moves_settle {n : Navigator} {fetch : Document → Answer} {d : Document} {o : Outline}
    (ho : (n.outline fetch d).1.outline = o) (hne : o.isEmpty = false) {direction : Direction}
    (hdirection : direction ≠ .child)
    (hnext : direction = .next → n.policy.fallbackToCurrent = true → o.Staggered) (p : Position) :
    ∃ k q m, n.walk fetch d [.caret p] (List.replicate k direction) = ([.caret q], m) ∧
      (m.navigate fetch d [.caret q] direction false).1.moved = false := by
  obtain ⟨k, hfixed⟩ := Outline.exists_step_fixed hdirection hnext p
  obtain ⟨q, m, hwalk, hmoved⟩ := moved_walk_iff ho hne hdirection k p
  refine ⟨k, q, m, hwalk, ?_⟩
  rw [← Bool.not_eq_true, hmoved, not_not]
  exact hfixed

/-- At every position of the overlapping functions, moves to the next sibling settle. -/
theorem moves_settle_overlapping :
    ((Navigator.new ⟨true⟩).outline Outline.overlapping.answer "shop").1.outline =
        Outline.overlapping ∧
      Outline.overlapping.isEmpty = false ∧ Outline.overlapping.Staggered ∧
      ∀ p, ∃ k q m, (Navigator.new ⟨true⟩).walk Outline.overlapping.answer "shop" [.caret p]
          (List.replicate k .next) = ([.caret q], m) ∧
        (m.navigate Outline.overlapping.answer "shop" [.caret q] .next false).1.moved = false := by
  have ho := outline_answer (o := Outline.overlapping) (by decide) (by decide) ⟨true⟩ "shop"
  have h : Outline.overlapping.Staggered := by decide
  exact ⟨ho, rfl, h, moves_settle ho rfl nofun fun _ _ => h⟩

/-! ## Moves that go round in circles -/

/-- Two functions that overlap, the later one listed first. -/
def Outline.crossed : Outline :=
  ⟨[.block "late" "" .function 5 20 [], .block "early" "" .function 0 10 []]⟩

/-- A class with a method that ends before it starts. -/
def Outline.backwards : Outline :=
  ⟨[.block "Shop" "" .classType 0 100
      [.block "sell" "" .method 10 20 [], .block "lost" "" .method 15 12 []]]⟩

/-- Two classes, each with a method that starts outside of it. -/
def Outline.straying : Outline :=
  ⟨[.block "Shop" "" .classType 0 10 [.block "sell" "" .method 50 55 []],
    .block "Till" "" .classType 40 60 [.block "open" "" .method 5 58 []]]⟩

theorem step_iterate_ne {o : Outline} {policy : Policy} {direction : Direction} {p q : Position}
    (hpq : o.step policy direction p = q) (hqp : o.step policy direction q = p) (hne : p ≠ q)
    (k : Nat) :
    o.step policy direction ((o.step policy direction)^[k] p) ≠
      (o.step policy direction)^[k] p := by
  have hcycle : (o.step policy direction)^[k] p = p ∨ (o.step policy direction)^[k] p = q := by
    induction k with
    | zero => exact .inl rfl
    | succ k ih =>
        rw [Function.iterate_succ_apply']
        rcases ih with ih | ih <;> rw [ih]
        · exact .inr hpq
        · exact .inl hqp
  rcases hcycle with h | h <;> rw [h]
  · rw [hpq]
    exact hne.symm
  · rw [hqp]
    exact hne

theorem step_next_of_landWithin {o : Outline} {p q : Position} {landing : Landing}
    (h : landWithin p (o.depth + 1) none o.topLevel = some landing)
    (hq : (((landing.nearest p).next.or (landing.nearest p).current).map Located.start).getD p =
      q) :
    o.step ⟨true⟩ .next p = q := by
  rw [Outline.step, destination, Selection.start_caret, resolve_of_landWithin h]
  exact hq

/-- With the fallback, each of the moves to the next sibling from the position changes something, in
a document for which the provider answers with the outline. -/
def Outline.Circles (o : Outline) (p : Position) : Prop :=
  ((Navigator.new ⟨true⟩).outline o.answer "shop").1.outline = o ∧ o.isEmpty = false ∧
    ∀ k, ∃ q m, (Navigator.new ⟨true⟩).walk o.answer "shop" [.caret p] (List.replicate k .next) =
        ([.caret q], m) ∧
      (m.navigate o.answer "shop" [.caret q] .next false).1.moved = true

theorem circles_of_step {o : Outline} (hroots : o.roots ≠ [])
    (hrepaired : ∀ s ∈ o.roots, ∀ t ∈ o.roots, s.range.strictlyContains t.range = false)
    {p q : Position} (hpq : o.step ⟨true⟩ .next p = q) (hqp : o.step ⟨true⟩ .next q = p)
    (hne : p ≠ q) : o.Circles p := by
  have ho := outline_answer hroots hrepaired ⟨true⟩ "shop"
  have hempty : o.isEmpty = false := List.isEmpty_eq_false_iff.mpr hroots
  refine ⟨ho, hempty, fun k => ?_⟩
  obtain ⟨r, m, hwalk, hmoved⟩ :=
    moved_walk_iff ho hempty (by decide : Direction.next ≠ .child) k p
  exact ⟨r, m, hwalk, hmoved.mpr (step_iterate_ne hpq hqp hne k)⟩

/-- Each of these outlines misses one condition of a staggered one: at the start of the next symbol,
the search finds another one, which starts in front of it. -/
theorem next_never_settles :
    Outline.crossed.Circles ⟨0, 0⟩ ∧ Outline.backwards.Circles ⟨10, 0⟩ ∧
      Outline.straying.Circles ⟨5, 0⟩ := by
  have hcrossed : Outline.crossed.step ⟨true⟩ .next ⟨0, 0⟩ = ⟨5, 0⟩ ∧
      Outline.crossed.step ⟨true⟩ .next ⟨5, 0⟩ = ⟨0, 0⟩ :=
    ⟨step_next_of_landWithin rfl (by decide), step_next_of_landWithin rfl (by decide)⟩
  have hbackwards : Outline.backwards.step ⟨true⟩ .next ⟨10, 0⟩ = ⟨15, 0⟩ ∧
      Outline.backwards.step ⟨true⟩ .next ⟨15, 0⟩ = ⟨10, 0⟩ :=
    ⟨step_next_of_landWithin rfl (by decide), step_next_of_landWithin rfl (by decide)⟩
  have hstraying : Outline.straying.step ⟨true⟩ .next ⟨5, 0⟩ = ⟨50, 0⟩ ∧
      Outline.straying.step ⟨true⟩ .next ⟨50, 0⟩ = ⟨5, 0⟩ :=
    ⟨step_next_of_landWithin rfl (by decide), step_next_of_landWithin rfl (by decide)⟩
  exact ⟨circles_of_step (by decide) (by decide) hcrossed.1 hcrossed.2 (by decide),
    circles_of_step (by decide) (by decide) hbackwards.1 hbackwards.2 (by decide),
    circles_of_step (by decide) (by decide) hstraying.1 hstraying.2 (by decide)⟩

end OutlineNav
