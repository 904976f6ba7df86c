import Mathlib.Data.List.FinRange
import Mathlib.Data.List.ReduceOption
import OutlineNav.Proofs.Operations

/-!
# Cursors of one move

A move of several cursors sends each of them where it would go alone. All that the cursors share is
the session, and of the session a cursor reads only its slot of the top frame (`join_takeFrame`), so
that alone it needs no more than a frame with this slot (`Session.atSlot`). A frame may be shorter
or longer than the list of selections: a cursor without a slot is like one with an empty slot.

Hence the outcome of a move is that of its cursors, one by one and in their order
(`navigate_pointwise`), and cursors that are listed in another order, with their slots, have their
outcome in that order.
-/

namespace OutlineNav

/-! ## Slots of the top frame -/

/-- The symbol that the top frame stages for a cursor. -/
def Session.slot? (s : Session) (slot : Nat) : Option SymbolPath :=
  (s.returns.head?.bind (·[slot]?)).join

/-- The session in which the top frame, if there is one, has no slot but that of one cursor. -/
def Session.atSlot (s : Session) (slot : Nat) : Session :=
  { s with returns := match s.returns with
      | [] => []
      | frame :: rest => frame[slot]?.toList :: rest }

theorem Session.slot?_atSlot (s : Session) (slot : Nat) :
    (s.atSlot slot).slot? 0 = s.slot? slot := by
  cases hreturns : s.returns with
  | nil => simp only [slot?, atSlot, hreturns, List.head?_nil, Option.bind_none]
  | cons frame rest =>
      simp only [slot?, atSlot, hreturns, List.head?_cons, Option.bind_some]
      cases frame[slot]? <;> rfl

/-- Of the session, a cursor reads its slot of the top frame, and that only for a move to the
child. -/
theorem Session.join_takeFrame (s : Session) (direction : Direction) (slot : Nat) :
    ((takeFrame direction s).1[slot]?).join =
      if direction = .child then s.slot? slot else none := by
  cases direction with
  | previous | next | parent => rfl
  | child =>
      rw [takeFrame, take, slot?, if_pos rfl]
      cases s.returns <;> rfl

/-! ## One cursor of a move -/

section

variable (o : Outline) (policy : Policy) (direction : Direction) (select : Bool)

theorem length_targets_plan (selections : List Selection) (s : Session) :
    (plan o policy direction select selections s).1.targets.length = selections.length := by
  simp only [plan, List.length_map, List.length_mapIdx]

/-- Where a cursor is sent, the selection and the slot of the cursor tell. -/
theorem plan_cursor_congr {selections selections' : List Selection} {s s' : Session} {i j : Nat}
    {selection : Selection} (hi : selections[i]? = some selection)
    (hj : selections'[j]? = some selection) (hslot : s'.slot? j = s.slot? i) :
    (plan o policy direction select selections' s').1.selections[j]? =
        (plan o policy direction select selections s).1.selections[i]? ∧
      (plan o policy direction select selections' s').1.targets[j]? =
        (plan o policy direction select selections s).1.targets[i]? := by
  have htaken : ((takeFrame direction s').1[j]?).join = ((takeFrame direction s).1[i]?).join := by
    rw [Session.join_takeFrame, Session.join_takeFrame, hslot]
  constructor
  · rw [getElem?_selections_plan o policy direction select s' hj,
      getElem?_selections_plan o policy direction select s hi, htaken]
  · rw [getElem?_targets_plan o policy direction select s' hj,
      getElem?_targets_plan o policy direction select s hi, htaken]

/-- Alone, with its slot, a cursor is sent where it is sent among others. -/
theorem plan_atSlot {selections : List Selection} (s : Session) {i : Nat} {selection : Selection}
    (hi : selections[i]? = some selection) :
    ∃ arrival target,
      (plan o policy direction select [selection] (s.atSlot i)).1.selections = [arrival] ∧
      (plan o policy direction select [selection] (s.atSlot i)).1.targets = [target] ∧
      (plan o policy direction select selections s).1.selections[i]? = some arrival ∧
      (plan o policy direction select selections s).1.targets[i]? = some target := by
  obtain ⟨arrival, harrival⟩ := List.length_eq_one_iff.mp
    (length_plan o policy direction select [selection] (s.atSlot i))
  obtain ⟨target, htarget⟩ := List.length_eq_one_iff.mp
    (length_targets_plan o policy direction select [selection] (s.atSlot i))
  have hfirst : [selection][0]? = some selection := rfl
  obtain ⟨hselection, hsent⟩ := plan_cursor_congr o policy direction select hfirst hi
    (s.slot?_atSlot i).symm
  rw [harrival] at hselection
  rw [htarget] at hsent
  exact ⟨arrival, target, harrival, htarget, hselection, hsent⟩

theorem highlights_plan (selections : List Selection) (s : Session) :
    (plan o policy direction select selections s).1.highlights =
      (plan o policy direction select selections s).1.targets.reduceOption.map
        (·.symbol.range) := by
  have hranges : ∀ destinations : List (Option Located),
      (destinations.filterMap id).map (·.symbol.range) =
        (destinations.map fun l => l.map Located.target).reduceOption.map (·.symbol.range) := by
    intro destinations
    rw [List.reduceOption, List.filterMap_map, List.map_filterMap, List.map_filterMap]
    congr 1
    funext l
    cases l <;> rfl
  exact hranges _

theorem moved_plan (selections : List Selection) (s : Session) :
    (plan o policy direction select selections s).1.moved = true ↔
      (plan o policy direction select selections s).1.selections ≠ selections :=
  bne_iff_ne

end

/-- A move in a document with symbols is its plan on what is kept of the document. -/
theorem Navigator.navigate_of_kept {n : Navigator} {d : Document} {o : Outline} {s : Session}
    (h : n.index.kept d = some (o, s)) (hne : o.isEmpty = false) (fetch : Document → Answer)
    (selections : List Selection) (direction : Direction) (select : Bool) :
    (n.navigate fetch d selections direction select).1 =
        (plan o n.policy direction select selections s).1 ∧
      (n.navigate fetch d selections direction select).2.index.kept d =
        some (o, (plan o n.policy direction select selections s).2) := by
  obtain ⟨e, he, heq⟩ := Option.map_eq_some_iff.mp h
  obtain ⟨rfl, rfl⟩ := Prod.mk.inj heq
  obtain ⟨m, hmove, hm⟩ := navigate_of_cached he hne fetch selections direction select
  rw [hmove]
  exact ⟨rfl, Index.kept_of_some hm⟩

/-! ## Cursors in another order -/

/-- A list in another order: where `a` has the item `σ i`, `b` has the item `i`. -/
structure Permuted {α : Type} {k : Nat} (σ : Equiv.Perm (Fin k)) (a b : List α) : Prop where
  length_left : a.length = k
  length_right : b.length = k
  getElem? : ∀ i : Fin k, b[i.val]? = a[(σ i).val]?

namespace Permuted

variable {α : Type} {k : Nat} {σ : Equiv.Perm (Fin k)} {a b a' b' : List α}

theorem ext_of_length (ha : a.length = k) (hb : b.length = k)
    (h : ∀ i : Fin k, a[i.val]? = b[i.val]?) : a = b := by
  refine List.ext_getElem? fun i => ?_
  by_cases hi : i < k
  · exact h ⟨i, hi⟩
  · rw [List.getElem?_eq_none (by omega), List.getElem?_eq_none (by omega)]

theorem perm (h : Permuted σ a b) : b.Perm a := by
  obtain ⟨rfl, hlength, hitems⟩ := h
  have hb : b = List.ofFn (a.get ∘ σ) := by
    refine ext_of_length hlength List.length_ofFn fun i => ?_
    rw [hitems i, List.getElem?_ofFn, dif_pos i.isLt, List.getElem?_eq_getElem (σ i).isLt]
    rfl
  calc b = List.ofFn (a.get ∘ σ) := hb
    _ |>.Perm (List.ofFn a.get) := Equiv.Perm.ofFn_comp_perm σ a.get
    _ = a := List.ofFn_get a

/-- Lists in the same other order are equal if and only if the lists are. -/
theorem eq_iff (h : Permuted σ a b) (h' : Permuted σ a' b') : b = b' ↔ a = a' := by
  constructor
  · rintro rfl
    refine ext_of_length h.length_left h'.length_left fun i => ?_
    have hback := (h.getElem? (σ.symm i)).symm.trans (h'.getElem? (σ.symm i))
    rwa [Equiv.apply_symm_apply] at hback
  · rintro rfl
    exact ext_of_length h.length_right h'.length_right fun i =>
      (h.getElem? i).trans (h'.getElem? i).symm

end Permuted

/-- Cursors in another order, with their slots, are sent to their symbols in that order. -/
theorem plan_permuted (o : Outline) (policy : Policy) (direction : Direction) (select : Bool)
    {selections selections' : List Selection} {s s' : Session}
    {σ : Equiv.Perm (Fin selections.length)} (h : Permuted σ selections selections')
    (hslots : ∀ i : Fin selections.length, s'.slot? i = s.slot? (σ i)) :
    Permuted σ (plan o policy direction select selections s).1.selections
        (plan o policy direction select selections' s').1.selections ∧
      Permuted σ (plan o policy direction select selections s).1.targets
        (plan o policy direction select selections' s').1.targets := by
  have hcursor := fun i => plan_cursor_congr o policy direction select
    (List.getElem?_eq_getElem (σ i).isLt)
    ((h.getElem? i).trans (List.getElem?_eq_getElem (σ i).isLt)) (hslots i)
  refine ⟨⟨?_, ?_, fun i => (hcursor i).1⟩, ⟨?_, ?_, fun i => (hcursor i).2⟩⟩
  · exact length_plan ..
  · exact (length_plan ..).trans h.length_right
  · exact length_targets_plan ..
  · exact (length_targets_plan ..).trans h.length_right

/-! ## Moves of several cursors -/

/-- A move of several cursors in a document with symbols: every cursor gets what it gets alone, with
its slot of the top frame; the highlights are the ranges of the symbols that cursors were sent to,
in the order of the cursors, and the session remembers them and the new selections. Cursors in
another order, with their slots, have the outcome in that order. -/
theorem navigate_pointwise {n : Navigator} {d : Document} {o : Outline} {s : Session}
    (hkept : n.index.kept d = some (o, s)) (hne : o.isEmpty = false) (fetch : Document → Answer)
    (selections : List Selection) (direction : Direction) (select : Bool) :
    let moved := n.navigate fetch d selections direction select
    let outcome := moved.1
    outcome.selections.length = selections.length ∧
    outcome.targets.length = selections.length ∧
    (∀ (i : Nat) (selection : Selection), selections[i]? = some selection →
      ∀ (m : Navigator) (fetch' : Document → Answer) (d' : Document),
        m.policy = n.policy → m.index.kept d' = some (o, s.atSlot i) →
        let alone := (m.navigate fetch' d' [selection] direction select).1
        ∃ arrival target, alone.selections = [arrival] ∧ alone.targets = [target] ∧
          outcome.selections[i]? = some arrival ∧ outcome.targets[i]? = some target) ∧
    outcome.highlights = outcome.targets.reduceOption.map (·.symbol.range) ∧
    (∃ session, moved.2.index.kept d = some (o, session) ∧
      session.highlights = outcome.highlights ∧
      session.lastSelections = some outcome.selections) ∧
    (outcome.moved = true ↔ outcome.selections ≠ selections) ∧
    ∀ (σ : Equiv.Perm (Fin selections.length)) (selections' : List Selection) (s' : Session),
      Permuted σ selections selections' →
      (∀ i : Fin selections.length, s'.slot? i = s.slot? (σ i)) →
      ∀ (m : Navigator) (fetch' : Document → Answer) (d' : Document),
        m.policy = n.policy → m.index.kept d' = some (o, s') →
        let permuted := (m.navigate fetch' d' selections' direction select).1
        Permuted σ outcome.selections permuted.selections ∧
        Permuted σ outcome.targets permuted.targets ∧
        permuted.highlights.Perm outcome.highlights ∧ permuted.moved = outcome.moved := by
  intro moved outcome
  obtain ⟨houtcome, hafter⟩ :=
    Navigator.navigate_of_kept hkept hne fetch selections direction select
  have hplan : outcome = (plan o n.policy direction select selections s).1 := houtcome
  rw [hplan]
  refine ⟨length_plan .., length_targets_plan .., ?_, highlights_plan ..,
    ⟨_, hafter, rfl, rfl⟩, moved_plan .., ?_⟩
  · intro i selection hi m fetch' d' hpolicy hm alone
    have halone : alone = _ :=
      (Navigator.navigate_of_kept hm hne fetch' [selection] direction select).1
    rw [halone, hpolicy]
    exact plan_atSlot o n.policy direction select s hi
  · intro σ selections' s' hselections hslots m fetch' d' hpolicy hm permuted
    have hpermuted : permuted = _ :=
      (Navigator.navigate_of_kept hm hne fetch' selections' direction select).1
    obtain ⟨harrivals, htargets⟩ :=
      plan_permuted o n.policy direction select (s := s) hselections hslots
    rw [hpermuted, hpolicy]
    refine ⟨harrivals, htargets, ?_, ?_⟩
    · rw [highlights_plan, highlights_plan]
      exact (htargets.perm.filterMap id).map _
    · rw [Bool.eq_iff_iff, moved_plan, moved_plan]
      exact not_congr (harrivals.eq_iff hselections)

/-- A navigator that keeps the outline of one document, with a session for it. -/
def Navigator.keeping (d : Document) (o : Outline) (s : Session) : Navigator :=
  ⟨{ Index.empty with entries := Table.empty.insert d ⟨0, o, s⟩ }, ⟨false⟩⟩

theorem Navigator.kept_keeping (d : Document) (o : Outline) (s : Session) :
    (keeping d o s).index.kept d = some (o, s) :=
  Index.kept_of_some (e := ⟨0, o, s⟩) (Table.get?_insert_self ..)

/-- Three cursors, of which the second one has a method staged and the third one has no slot and no
child to go to: the second one goes to the method, alone and in front of the first one, too. -/
theorem navigate_pointwise_sample :
    let s : Session := ⟨[[none, some [0, 1]], [some [1]]], none, []⟩
    let s' : Session := ⟨[[some [0, 1]]], none, []⟩
    let first : Selection := .caret ⟨0, 0⟩
    let second : Selection := ⟨⟨80, 0⟩, ⟨2, 0⟩⟩
    let third : Selection := .caret ⟨120, 0⟩
    let silent : Document → Answer := fun _ => .ok none
    let move := fun s selections =>
      ((Navigator.keeping "shop" Outline.sample s).navigate silent "shop" selections .child true).1
    (move s [first, second, third]).targets.map (·.map (·.path)) =
        [some [0, 0, 0], some [0, 1], none] ∧
      (move s [first, second, third]).targets[1]? = (move (s.atSlot 1) [second]).targets[0]? ∧
      (move s' [second, first, third]).targets[0]? =
        (move s [first, second, third]).targets[1]? := by
  intro s s' first second third silent move
  obtain ⟨-, -, halone, -, -, -, hpermuted⟩ := navigate_pointwise
    (Navigator.kept_keeping "shop" Outline.sample s) rfl silent [first, second, third] .child
    true
  obtain ⟨arrival, target, -, hsingle, -, hsent⟩ := halone 1 second rfl
    (.keeping "shop" Outline.sample (s.atSlot 1)) silent "shop" rfl
    (Navigator.kept_keeping ..)
  obtain ⟨-, htargets, -, -⟩ := hpermuted (Equiv.swap 0 1) [second, first, third] s'
    ⟨rfl, rfl, by decide⟩ (by decide) (.keeping "shop" Outline.sample s') silent "shop" rfl
    (Navigator.kept_keeping ..)
  refine ⟨by decide +kernel, ?_, htargets.getElem? 0⟩
  exact hsent.trans (congrArg (·[0]?) hsingle).symm

end OutlineNav
