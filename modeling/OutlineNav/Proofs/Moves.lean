import OutlineNav.Navigator
import OutlineNav.Proofs.Neighbours

/-!
# Moves

One move, from three sides: what its plan does to the stack of staged frames and where it sends each
selection, with or without a staged symbol, where it sends a single caret at the start of a target
of an orderly outline, and that in a document with an outline in the cache it is its plan and
nothing else.
-/

namespace OutlineNav

/-! ## Frames -/

theorem plan_returns (o : Outline) (policy : Policy) (direction : Direction) (select : Bool)
    (selections : List Selection) (s : Session) :
    (plan o policy direction select selections s).2.returns =
      if direction = .parent then (s.record (stagedFrame o selections)).returns
      else (takeFrame direction s).2.returns := by
  cases direction <;> rfl

theorem Session.mem_returns_of_takeFrame {direction : Direction} {s : Session} {frame : ReturnFrame}
    (h : frame ∈ (takeFrame direction s).2.returns) : frame ∈ s.returns := by
  cases direction with
  | previous | next => cases h
  | parent => exact h
  | child =>
      rw [takeFrame, Session.take] at h
      split at h
      · exact h
      · next hreturns => exact hreturns ▸ List.mem_cons_of_mem _ h

/-! ## Slots -/

theorem length_plan (o : Outline) (policy : Policy) (direction : Direction) (select : Bool)
    (selections : List Selection) (s : Session) :
    (plan o policy direction select selections s).1.selections.length = selections.length := by
  simp only [plan, List.length_map, List.length_zip, List.length_mapIdx, Nat.min_self]

/-- Where a move sends one of the selections. -/
theorem getElem?_selections_plan (o : Outline) (policy : Policy) (direction : Direction)
    (select : Bool) {selections : List Selection} (s : Session) {slot : Nat} {selection : Selection}
    (h : selections[slot]? = some selection) :
    (plan o policy direction select selections s).1.selections[slot]? =
      some (((destination o policy direction (((takeFrame direction s).1[slot]?).join)
        selection).map (arrival select)).getD selection) := by
  have hplan : (plan o policy direction select selections s).1.selections =
      (selections.zip (selections.mapIdx fun slot selection => destination o policy direction
        (((takeFrame direction s).1[slot]?).join) selection)).map fun staged =>
          (staged.2.map (arrival select)).getD staged.1 := rfl
  rw [hplan, List.getElem?_map, List.zip, List.getElem?_zipWith, List.getElem?_mapIdx, h]
  rfl

/-- The symbol that a move sends one of the selections to. -/
theorem getElem?_targets_plan (o : Outline) (policy : Policy) (direction : Direction)
    (select : Bool) {selections : List Selection} (s : Session) {slot : Nat} {selection : Selection}
    (h : selections[slot]? = some selection) :
    (plan o policy direction select selections s).1.targets[slot]? =
      some ((destination o policy direction (((takeFrame direction s).1[slot]?).join) selection).map
        Located.target) := by
  have hplan : (plan o policy direction select selections s).1.targets =
      (selections.mapIdx fun slot selection => destination o policy direction
        (((takeFrame direction s).1[slot]?).join) selection).map
          fun l => l.map Located.target := rfl
  rw [hplan, List.getElem?_map, List.getElem?_mapIdx, h, Option.map_some, Option.map_some]

/-- A move to the child sends a selection to the symbol that is staged for its slot. -/
theorem targets_of_staged {o : Outline} {s : Session} {frame : ReturnFrame}
    {rest : List ReturnFrame} (hs : s.returns = frame :: rest) {slot : Nat} {path : SymbolPath}
    (hslot : frame[slot]? = some (some path)) {l : Located} (hl : o.locate? path = some l)
    (policy : Policy) (select : Bool) {selections : List Selection}
    (hlength : slot < selections.length) :
    (plan o policy .child select selections s).1.targets[slot]? = some (some l.target) := by
  have htake : (takeFrame .child s).1 = frame := by
    rw [takeFrame, Session.take, hs]
    rfl
  rw [getElem?_targets_plan o policy .child select s (List.getElem?_eq_getElem hlength), htake,
    hslot]
  simp only [Option.join_some, destination, Option.bind_some, hl, Nearest.toward, Option.some_or,
    Option.map_some]

/-! ## A single caret -/

/-- A single caret at the start of a target. -/
def Located.caret (l : Located) : List Selection := [.caret l.start]

theorem Selection.start_caret (p : Position) : (Selection.caret p).start = p :=
  ite_self p

/-- The symbol that the session of a document sends a single caret back to. -/
def Session.staged? (s : Session) (o : Outline) (direction : Direction) : Option Located :=
  ((takeFrame direction s).1[0]?).join.bind o.locate?

theorem Session.staged?_of_nil {s : Session} (h : s.returns = []) (o : Outline) :
    s.staged? o .child = none := by
  rw [Session.staged?, takeFrame, Session.take, h]
  rfl

theorem Session.staged?_of_cons {s : Session} {path : SymbolPath} {rest : List ReturnFrame}
    (h : s.returns = [some path] :: rest) (o : Outline) : s.staged? o .child = o.locate? path := by
  rw [Session.staged?, takeFrame, Session.take, h]
  rfl

theorem plan_caret {o : Outline} (h : o.Orderly) {t : Located} (ht : o.IsTarget t) (policy : Policy)
    (direction : Direction) (s : Session) :
    (plan o policy direction false t.caret s).1.selections =
      (((resolve o t.start).toward (s.staged? o direction) direction).getD t).caret := by
  have hcurrent : (resolve o t.start).current = some t := by rw [resolve, h.land_start ht]; rfl
  have hplan : (plan o policy direction false t.caret s).1.selections =
      [((destination o policy direction ((takeFrame direction s).1[0]?).join
        (.caret t.start)).map (arrival false)).getD (.caret t.start)] := rfl
  rw [hplan, destination, Selection.start_caret, ← Session.staged?, hcurrent]
  cases (resolve o t.start).toward (s.staged? o direction) direction with
  | some u => rfl
  | none => cases policy.fallbackToCurrent <;> rfl

/-- A move to the parent stages the target that it leaves. -/
theorem Outline.Orderly.stagedFrame_caret {o : Outline} (h : o.Orderly) {t : Located}
    (ht : o.IsTarget t) (hparent : (o.enclosing? t.path).isSome) :
    stagedFrame o t.caret = [some t.path] := by
  rw [stagedFrame, Located.caret, List.map_singleton, Selection.start_caret, resolve,
    h.land_start ht]
  exact congrArg (fun path => [path]) (if_pos hparent)

/-! ## Moves over the cache -/

theorem Index.getOutline_of_cached {ix : Index} {d : Document} {e : Entry}
    (h : ix.entries.get? d = some e) (fetch : Document → Answer) :
    ix.getOutline d fetch = (e.handle, { ix with hits := ix.hits + 1 }) := by
  simp only [Index.getOutline, Index.lookup, Index.cached, h, Option.map_some]

theorem Index.get?_updateSession_of_cached {ix : Index} {d : Document} {e : Entry}
    (h : ix.entries.get? d = some e) (session : Session) :
    (ix.updateSession d session).entries.get? d = some { e with session } := by
  rw [updateSession, Table.get?_modify_self, h, Option.map_some]

theorem Index.withSession_of_cached {α : Type} {ix : Index} {d : Document} {e : Entry}
    (h : ix.entries.get? d = some e) (f : Session → α × Session) :
    ix.withSession d e.handle f = (some (f e.session).1, ix.updateSession d (f e.session).2) := by
  simp only [Index.withSession, h, Entry.handle, if_true]

theorem Navigator.outline_of_cached {n : Navigator} {d : Document} {e : Entry}
    (h : n.index.entries.get? d = some e) (fetch : Document → Answer) :
    ∃ m : Navigator, n.outline fetch d = (e.handle, m) ∧ m.policy = n.policy ∧
      m.index.entries = n.index.entries := by
  rw [outline, Index.getOutline_of_cached h fetch]
  exact ⟨_, rfl, rfl, rfl⟩

theorem Navigator.moveWith_of_cached {n : Navigator} {d : Document} {e : Entry}
    (h : n.index.entries.get? d = some e) (hne : e.outline.isEmpty = false)
    (selections : List Selection) (direction : Direction) (select : Bool) :
    n.moveWith d e.handle selections direction select =
      ((plan e.outline n.policy direction select selections e.session).1,
        ⟨n.index.updateSession d
          (plan e.outline n.policy direction select selections e.session).2, n.policy⟩) := by
  have hhandle : e.handle.outline = e.outline := rfl
  rw [moveWith, hhandle, hne, if_neg Bool.false_ne_true, Index.withSession_of_cached h]
  rfl

/-- A move in a document with an outline in the cache is its plan on the session of the document. -/
theorem Navigator.navigate_of_cached {n : Navigator} {d : Document} {e : Entry}
    (h : n.index.entries.get? d = some e) (hne : e.outline.isEmpty = false)
    (fetch : Document → Answer) (selections : List Selection) (direction : Direction)
    (select : Bool) :
    ∃ m : Navigator, n.navigate fetch d selections direction select =
        ((plan e.outline n.policy direction select selections e.session).1, m) ∧
      m.index.entries.get? d = some { e with
        session := (plan e.outline n.policy direction select selections e.session).2 } := by
  obtain ⟨m, hm, hpolicy, hentries⟩ := outline_of_cached h fetch
  rw [← hentries] at h
  rw [navigate, hm, ← hpolicy]
  exact ⟨_, moveWith_of_cached h hne selections direction select,
    Index.get?_updateSession_of_cached h _⟩

/-- A document that has handed out an outline with symbols keeps it. -/
theorem Navigator.exists_entry_of_outline {n : Navigator} {fetch : Document → Answer} {d : Document}
    (hne : (n.outline fetch d).1.outline.isEmpty = false) :
    ∃ (e : Entry) (m : Navigator), n.outline fetch d = (e.handle, m) ∧ m.policy = n.policy ∧
      m.index.entries.get? d = some e := by
  cases hcached : n.index.entries.get? d with
  | some e =>
      obtain ⟨m, hm, hpolicy, hentries⟩ := outline_of_cached hcached fetch
      exact ⟨e, m, hm, hpolicy, hentries ▸ hcached⟩
  | none =>
      rw [outline, Index.getOutline, Index.lookup, Index.cached, hcached, Option.map_none] at hne ⊢
      simp only [Index.receive] at hne ⊢
      cases hsymbols : (fetch d).symbols? with
      | none => rw [hsymbols] at hne; cases hne
      | some symbols => exact ⟨_, _, rfl, rfl, Table.get?_insert_self ..⟩

/-- A move in a document with an outline is a plan on that outline, and leaves the document with
it. -/
theorem Navigator.navigate_of_outline {n : Navigator} {fetch : Document → Answer} {d : Document}
    {o : Outline} (ho : (n.outline fetch d).1.outline = o) (hne : o.isEmpty = false)
    (selections : List Selection) (direction : Direction) (select : Bool) :
    ∃ (s : Session) (m : Navigator), n.navigate fetch d selections direction select =
        ((plan o n.policy direction select selections s).1, m) ∧
      m.policy = n.policy ∧ (m.outline fetch d).1.outline = o := by
  subst ho
  obtain ⟨e, m, hm, hpolicy, hcached⟩ := exists_entry_of_outline hne
  have hmove : n.navigate fetch d selections direction select =
      m.moveWith d e.handle selections direction select := by rw [navigate, hm]
  rw [hm] at hne ⊢
  rw [hmove, ← hpolicy, moveWith_of_cached hcached hne]
  refine ⟨e.session, _, rfl, rfl, ?_⟩
  obtain ⟨_, hkept, -⟩ := outline_of_cached (n := ⟨_, m.policy⟩)
    (Index.get?_updateSession_of_cached hcached
      (plan e.outline m.policy direction select selections e.session).2) fetch
  exact congrArg (·.1.outline) hkept

end OutlineNav
