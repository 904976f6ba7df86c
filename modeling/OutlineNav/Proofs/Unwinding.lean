import OutlineNav.Proofs.Descent
import OutlineNav.Proofs.ReachableStates

/-!
# Unwinding the return stack

Any number of moves to the parent, and as many moves to the child as frames were staged. Each move
is made from where the one before led, and the editor may tell about its new selections, or not. The
outline in the cache may have any shape, and the session may have any frames staged already.

A move to the parent pushes its frame if it has a filled slot (`march_parent`), a move to the child
takes one frame off and goes where its slots lead (`march_child`), and neither an echo nor a slot
that leads nowhere touches the stack (`stride_of_cached`). So the frames come off in reverse
(`return_stack_unwinds`) and what was staged before the first move is what is left.

A cursor inside of a parent may have nothing to come back to. That takes a member that ends before
it starts, exactly at the cursor (`exists_branch?`, `return_stack_loses_reversed`).
-/

namespace OutlineNav

/-! ## What a move to the parent leaves behind -/

/-- Where a cursor is on its level: at its current symbol, else in front of the next one, else
behind the previous one. -/
def Nearest.branch? (n : Nearest) : Option Located := n.current.or (n.next.or n.previous)

theorem isTarget_of_branch? {o : Outline} {position : Position} {l : Located}
    (h : (resolve o position).branch? = some l) : o.IsTarget l := by
  apply isTarget_of_resolve position
  rcases Option.or_eq_some_iff.mp h with h | ⟨-, h⟩
  · exact .inl h
  · exact .inr ((Option.or_eq_some_iff.mp h).imp_right And.right)

/-- The slot of a cursor that has a parent holds where the cursor was. -/
theorem getElem?_stagedFrame {o : Outline} {selections : List Selection} {slot : Nat}
    {s : Selection} (hs : selections[slot]? = some s)
    (hparent : (resolve o s.start).parent.isSome = true) {l : Located}
    (hl : (resolve o s.start).branch? = some l) :
    (stagedFrame o selections)[slot]? = some (some l.path) := by
  have hreturn : (resolve o s.start).returnChild = (resolve o s.start).branch?.map (·.path) :=
    if_pos hparent
  rw [stagedFrame, List.getElem?_map, hs, Option.map_some, hreturn, hl, Option.map_some]

/-- Below a parent, a search ends on a level with members. -/
theorem search_level_ne_nil (position : Position) (owner : Option Located) (level : List Located)
    (howner : owner.isSome = true → level ≠ []) :
    (search position owner level).parent.isSome = true →
      (search position owner level).level ≠ [] := by
  fun_induction search position owner level with
  | case1 owner level hlast => exact howner
  | case2 owner level l hlast hstops => exact howner
  | case3 owner level l hlast hstops ih =>
      exact ih fun _ => Located.members_ne_nil_of_stops (by simpa using hstops)

/-- As long as no target ends before it starts, a cursor that has a parent is somewhere on its
level. -/
theorem exists_branch? {o : Outline} (hstart : ∀ l, o.IsTarget l → l.start ≤ l.symbol.range.stop)
    {position : Position} (hparent : (resolve o position).parent.isSome = true) :
    ∃ l, (resolve o position).branch? = some l := by
  have hlanding := isLanding_land o position
  have hlevel := search_level_ne_nil position none o.topLevel nofun
  rw [← land_eq_search] at hlevel
  cases hcurrent : (land position none o.topLevel).current with
  | some l => exact ⟨l, Option.or_eq_some_iff.mpr (.inl hcurrent)⟩
  | none =>
      -- any member of the level starts in front of the position or behind it
      obtain ⟨m, hm⟩ := List.exists_mem_of_ne_nil _ (hlevel hparent)
      have hout := lastContaining?_eq_none.mp ((land_current ..).symm.trans hcurrent) m hm
      have htarget := hlanding.parent.mem_levelBelow.mp (hlanding.level ▸ hm)
      have hle := hstart m htarget.1
      have hother : m ∈ (land position none o.topLevel).others := by
        rw [Landing.others, hcurrent]
        exact List.mem_filter.mpr ⟨hm, rfl⟩
      have hside : position < m.start ∨ m.start < position := by
        simp only [Range.contains, Bool.and_eq_false_iff, decide_eq_false_iff_not,
          Position.le_iff_rank, Position.lt_iff_rank, Located.start] at *
        omega
      have hnext : position < m.start → (resolve o position).next.isSome = true := fun h =>
        earliest_isSome (List.ne_nil_of_mem (List.mem_filter.mpr ⟨hother, decide_eq_true h⟩))
      have hprevious : m.start < position → (resolve o position).previous.isSome = true := fun h =>
        latest_isSome (List.ne_nil_of_mem (List.mem_filter.mpr ⟨hother, decide_eq_true h⟩))
      rw [Nearest.branch?, show (resolve o position).current = none from hcurrent, Option.none_or,
        ← Option.isSome_iff_exists, Option.isSome_or, Bool.or_eq_true]
      exact hside.imp hnext hprevious

/-! ## One move and its echo -/

/-- How a move is made: whether it selects, and whether the editor tells about its selections. -/
structure Stride where
  select : Bool
  echoed : Bool
  deriving DecidableEq, Repr

namespace Navigator

/-- A move, and its echo if there is one. -/
def stride (n : Navigator) (fetch : Document → Answer) (d : Document) (direction : Direction)
    (selections : List Selection) (stride : Stride) : Outcome × Navigator :=
  let (outcome, n) := n.navigate fetch d selections direction stride.select
  (outcome, if stride.echoed then (n.selectionChanged d outcome.selections).2 else n)

/-- Moves in one direction, each from where the one before led. -/
def march (n : Navigator) (fetch : Document → Answer) (d : Document) (direction : Direction)
    (selections : List Selection) : List Stride → List Outcome × Navigator
  | [] => ([], n)
  | s :: rest =>
    let (outcome, n) := n.stride fetch d direction selections s
    let (outcomes, n) := n.march fetch d direction outcome.selections rest
    (outcome :: outcomes, n)

end Navigator

/-- The selections that each move of a march started from. -/
def origins (selections : List Selection) : List Outcome → List (List Selection)
  | [] => []
  | outcome :: rest => selections :: origins outcome.selections rest

/-- The selections that a march led to. -/
def arrived (selections : List Selection) : List Outcome → List Selection
  | [] => selections
  | outcome :: rest => arrived outcome.selections rest

theorem Session.selectionChanged_echo {s : Session} {selections : List Selection}
    (h : s.lastSelections = some selections) :
    s.selectionChanged selections = (.reapply s.highlights, s) :=
  if_pos h

theorem Navigator.selectionChanged_of_cached {n : Navigator} {d : Document} {e : Entry}
    (h : n.index.entries.get? d = some e) {selections : List Selection}
    (hecho : e.session.lastSelections = some selections) :
    (n.selectionChanged d selections).2.index.entries.get? d = some e := by
  rw [selectionChanged, Index.withCurrentSession, h]
  simp only [Session.selectionChanged_echo hecho, Index.updateSession, Table.get?_modify_self, h,
    Option.map_some]

/-- With or without its echo, a move does to the session what its plan says. -/
theorem Navigator.stride_of_cached {n : Navigator} {d : Document} {e : Entry}
    (h : n.index.entries.get? d = some e) (hne : e.outline.isEmpty = false)
    (fetch : Document → Answer) (direction : Direction) (selections : List Selection)
    (stride : Stride) :
    ∃ m : Navigator, n.stride fetch d direction selections stride =
        ((plan e.outline n.policy direction stride.select selections e.session).1, m) ∧
      m.index.entries.get? d = some { e with
        session := (plan e.outline n.policy direction stride.select selections e.session).2 } := by
  obtain ⟨m, hmove, hm⟩ := navigate_of_cached h hne fetch selections direction stride.select
  rw [Navigator.stride, hmove]
  refine ⟨_, rfl, ?_⟩
  split
  · exact selectionChanged_of_cached hm rfl
  · exact hm

/-! ## Marches -/

/-- A move to the parent from here stages a frame. -/
def stages (o : Outline) (selections : List Selection) : Bool :=
  (stagedFrame o selections).any (·.isSome)

theorem Session.record_returns (s : Session) (o : Outline) (selections : List Selection) :
    (s.record (stagedFrame o selections)).returns =
      if stages o selections then stagedFrame o selections :: s.returns else s.returns := by
  have hall : (stagedFrame o selections).all (·.isNone) = !stages o selections := by
    simp only [stages, List.not_any_eq_all_not, Option.not_isSome]
  rw [Session.record, hall]
  cases stages o selections <;> rfl

theorem length_of_mem_origins {d : Document} (fetch : Document → Answer) (direction : Direction)
    (strides : List Stride) :
    ∀ {n : Navigator} {e : Entry} (selections : List Selection),
      n.index.entries.get? d = some e → e.outline.isEmpty = false →
      (arrived selections (n.march fetch d direction selections strides).1).length =
        selections.length ∧
      ∀ origin ∈ origins selections (n.march fetch d direction selections strides).1,
        origin.length = selections.length := by
  induction strides with
  | nil => exact fun _ _ _ => ⟨rfl, nofun⟩
  | cons stride rest ih =>
      intro n e selections h hne
      obtain ⟨m, hstride, hm⟩ := Navigator.stride_of_cached h hne fetch direction selections stride
      obtain ⟨harrived, horigins⟩ := ih _ hm hne
      rw [Navigator.march, hstride]
      rw [length_plan] at harrived horigins
      refine ⟨harrived, ?_⟩
      rintro _ (_ | ⟨_, hmem⟩)
      · rfl
      · exact horigins _ hmem

/-- Moves to the parent stage the frames of those of their origins that have one, the latest in
front. -/
theorem march_parent {d : Document} (fetch : Document → Answer) (strides : List Stride) :
    ∀ {n : Navigator} {e : Entry} (selections : List Selection),
      n.index.entries.get? d = some e → e.outline.isEmpty = false →
      ∃ s : Session, (n.march fetch d .parent selections strides).2.index.entries.get? d =
          some { e with session := s } ∧
        s.returns = (((origins selections (n.march fetch d .parent selections strides).1).filter
          (stages e.outline)).map (stagedFrame e.outline)).reverse ++ e.session.returns := by
  induction strides with
  | nil => exact fun _ h _ => ⟨_, h, rfl⟩
  | cons stride rest ih =>
      intro n e selections h hne
      obtain ⟨m, hstride, hm⟩ := Navigator.stride_of_cached h hne fetch .parent selections stride
      obtain ⟨s, hs, hreturns⟩ := ih _ hm hne
      rw [Navigator.march, hstride]
      refine ⟨s, hs, ?_⟩
      rw [hreturns, plan_returns, if_pos rfl, Session.record_returns, origins, List.filter_cons]
      split
      · rw [List.map_cons, List.reverse_cons, List.append_assoc]
        rfl
      · rfl

/-- A move to the child with a frame on the stack takes the frame off and goes where its slots
lead. -/
theorem plan_child (o : Outline) {s : Session} {frame : ReturnFrame} {rest : List ReturnFrame}
    (hs : s.returns = frame :: rest) (policy : Policy) (select : Bool)
    (selections : List Selection) :
    (plan o policy .child select selections s).2.returns = rest ∧
    ∀ slot path l, frame[slot]? = some (some path) → o.locate? path = some l →
      slot < selections.length →
      (plan o policy .child select selections s).1.targets[slot]? = some (some l.target) ∧
      (plan o policy .child select selections s).1.selections[slot]? = some (arrival select l) := by
  have htake : takeFrame .child s = (frame, { s with returns := rest }) := by
    rw [takeFrame, Session.take, hs]
    rfl
  constructor
  · rw [plan_returns, if_neg (by decide), htake]
  · intro slot path l hslot hl hlength
    refine ⟨targets_of_staged hs hslot hl policy select hlength, ?_⟩
    rw [getElem?_selections_plan o policy .child select s (List.getElem?_eq_getElem hlength), htake,
      hslot]
    simp only [Option.join_some, destination, Option.bind_some, hl, Nearest.toward, Option.some_or,
      Option.map_some, Option.getD_some]

/-- As many moves to the child as there are frames take them off one by one. -/
theorem march_child {d : Document} (fetch : Document → Answer) (strides : List Stride) :
    ∀ {n : Navigator} {e : Entry} (selections : List Selection) {frames rest : List ReturnFrame},
      n.index.entries.get? d = some e → e.outline.isEmpty = false →
      e.session.returns = frames ++ rest → frames.length = strides.length →
      (∃ s : Session, (n.march fetch d .child selections strides).2.index.entries.get? d =
          some { e with session := s } ∧ s.returns = rest) ∧
      ∀ (j : Nat) frame stride, frames[j]? = some frame → strides[j]? = some stride →
        ∃ outcome, (n.march fetch d .child selections strides).1[j]? = some outcome ∧
          ∀ slot path l, frame[slot]? = some (some path) → e.outline.locate? path = some l →
            slot < selections.length → outcome.targets[slot]? = some (some l.target) ∧
              outcome.selections[slot]? = some (arrival stride.select l) := by
  induction strides with
  | nil =>
      intro n e selections frames rest h _ hreturns hlength
      obtain rfl := List.length_eq_zero_iff.mp hlength
      exact ⟨⟨_, h, hreturns⟩, nofun⟩
  | cons stride strides ih =>
      intro n e selections frames rest h hne hreturns hlength
      obtain ⟨frame, frames, rfl⟩ := List.exists_cons_of_length_eq_add_one hlength
      obtain ⟨m, hstride, hm⟩ := Navigator.stride_of_cached h hne fetch .child selections stride
      obtain ⟨htake, hslots⟩ := plan_child e.outline hreturns n.policy stride.select selections
      obtain ⟨hleft, hlater⟩ := ih _ hm hne htake (Nat.succ.inj hlength)
      rw [Navigator.march, hstride]
      refine ⟨hleft, ?_⟩
      rintro (_ | j) frame' stride' hframe hstride'
      · cases hframe
        cases hstride'
        exact ⟨_, rfl, hslots⟩
      · rw [length_plan] at hlater
        exact hlater j frame' stride' hframe hstride'

/-! ## There and back -/

/-- Moves to the parent, and then a move to the child for every frame that they staged: the stack is
what it was, and the frames are used in reverse. Each move to the child sends every cursor that had
a parent back to where it was on its level. Only among targets that end before they start it may
have been nowhere. -/
theorem return_stack_unwinds {n : Navigator} {d : Document} {e : Entry}
    (hcached : n.index.entries.get? d = some e) (hne : e.outline.isEmpty = false)
    (fetch : Document → Answer) (selections : List Selection) (ups downs : List Stride) :
    let up := n.march fetch d .parent selections ups
    let staging := (origins selections up.1).filter (stages e.outline)
    let down := up.2.march fetch d .child (arrived selections up.1) downs
    downs.length = staging.length →
      (∃ s : Session, up.2.index.entries.get? d = some { e with session := s } ∧
        s.returns = (staging.map (stagedFrame e.outline)).reverse ++ e.session.returns) ∧
      (∃ s : Session, down.2.index.entries.get? d = some { e with session := s } ∧
        s.returns = e.session.returns) ∧
      ∀ (j : Nat) origin stride, staging.reverse[j]? = some origin → downs[j]? = some stride →
        ∃ outcome, down.1[j]? = some outcome ∧
          ∀ (i : Nat) s, origin[i]? = some s → (resolve e.outline s.start).parent.isSome = true →
            (∀ l, (resolve e.outline s.start).branch? = some l →
              outcome.targets[i]? = some (some l.target) ∧
                outcome.selections[i]? = some (arrival stride.select l)) ∧
            ((∀ l, e.outline.IsTarget l → l.start ≤ l.symbol.range.stop) →
              ∃ l, (resolve e.outline s.start).branch? = some l) := by
  intro up staging down hlength
  obtain ⟨s, hs, hreturns⟩ := march_parent fetch ups selections hcached hne
  obtain ⟨harrived, horigins⟩ := length_of_mem_origins fetch .parent ups selections hcached hne
  obtain ⟨hleft, hslots⟩ := march_child fetch downs (arrived selections up.1) hs hne hreturns
    (by rw [List.length_reverse, List.length_map, hlength])
  refine ⟨⟨s, hs, hreturns⟩, hleft, ?_⟩
  intro j origin stride hj hstride
  have hframe : (staging.map (stagedFrame e.outline)).reverse[j]? =
      some (stagedFrame e.outline origin) := by
    rw [← List.map_reverse, List.getElem?_map, hj, Option.map_some]
  obtain ⟨outcome, houtcome, hslot⟩ := hslots j _ stride hframe hstride
  refine ⟨outcome, houtcome, fun i s hi hparent =>
    ⟨fun l hl => ?_, fun h => exists_branch? h hparent⟩⟩
  have hmem := List.mem_of_mem_filter (List.mem_reverse.mp (List.mem_of_getElem? hj))
  have hlt : i < (arrived selections up.1).length := by
    rw [harrived, ← horigins origin hmem]
    exact (List.getElem?_eq_some_iff.mp hi).1
  exact hslot i l.path l (getElem?_stagedFrame hi hparent hl) (isTarget_of_branch? hl).locate?_eq
    hlt

/-- A navigator that has the outline of one document in its cache. -/
def Navigator.holding (d : Document) (o : Outline) : Navigator :=
  ⟨{ Index.empty with entries := Table.empty.insert d ⟨0, o, .idle⟩ }, ⟨false⟩⟩

/-- A cursor in the field and one in the function, which has no parent: two moves to the parent, of
which the second one stages nothing, and one move back. -/
theorem return_stack_unwinds_sample :
    let n := Navigator.holding "shop" Outline.sample
    let selections : List Selection := [.caret ⟨7, 0⟩, .caret ⟨125, 0⟩]
    let up := n.march sampleFetch "shop" .parent selections [⟨false, true⟩, ⟨true, false⟩]
    let down := up.2.march sampleFetch "shop" .child (arrived selections up.1) [⟨false, true⟩]
    (origins selections up.1).filter (stages Outline.sample) = [selections] ∧
      ∃ outcome, down.1[0]? = some outcome ∧
        outcome.targets[0]? = some (some ⟨[0, 0, 0], .block "price" "" .field 6 8 []⟩) := by
  intro n selections up down
  have hcached : n.index.entries.get? "shop" = some ⟨0, Outline.sample, .idle⟩ :=
    Table.get?_insert_self ..
  have hstaging : (origins selections up.1).filter (stages Outline.sample) = [selections] := by
    decide +kernel
  obtain ⟨-, -, hback⟩ := return_stack_unwinds hcached rfl sampleFetch selections
    [⟨false, true⟩, ⟨true, false⟩] [⟨false, true⟩] (by decide +kernel)
  obtain ⟨outcome, houtcome, hslots⟩ := hback 0 selections ⟨false, true⟩ (by decide +kernel) rfl
  obtain ⟨hsent, -⟩ := hslots 0 (.caret ⟨7, 0⟩) rfl (by decide +kernel)
  exact ⟨hstaging, outcome, houtcome, (hsent samplePrice (by decide +kernel)).1⟩

/-- A class with a method, and a class whose only method ends before it starts. -/
def Outline.reversed : Outline :=
  ⟨[.block "Till" "" .classType 0 100 [.block "open" "" .method 30 40 []],
    .block "Shop" "" .classType 120 220
      [{ name := "lost", detail := "", kind := .method, range := ⟨⟨150, 0⟩, ⟨140, 0⟩⟩,
         selectionRange := ⟨⟨150, 0⟩, ⟨150, 4⟩⟩, children := [] }]]⟩

/-- A cursor at the start of the reversed method is inside of its class and at none of the symbols
there, so that a move to the parent has nothing to stage for it; the move to the child sends it to
the first child of the class. -/
theorem return_stack_loses_reversed :
    let n := Navigator.holding "shop" Outline.reversed
    let selections : List Selection := [.caret ⟨30, 0⟩, .caret ⟨150, 0⟩]
    let up := n.march sampleFetch "shop" .parent selections [⟨false, false⟩]
    let down := up.2.march sampleFetch "shop" .child (arrived selections up.1) [⟨false, false⟩]
    (origins selections up.1).filter (stages Outline.reversed) = [selections] ∧
      (resolve Outline.reversed ⟨150, 0⟩).parent.isSome = true ∧
      (¬∃ l, (resolve Outline.reversed ⟨150, 0⟩).branch? = some l ∧
        down.1.map (·.targets[1]?) = [some (some l.target)]) ∧
      down.1.map (·.targets.map fun target => target.map (·.path)) =
        [[some [0, 0], some [1, 0]]] := by
  intro n selections up down
  have hnowhere : (resolve Outline.reversed ⟨150, 0⟩).branch? = none := by decide +kernel
  refine ⟨by decide +kernel, by decide +kernel, ?_, by decide +kernel⟩
  rintro ⟨l, hl, -⟩
  rw [hnowhere] at hl
  cases hl

end OutlineNav
