import OutlineNav.Proofs.Containment
import OutlineNav.Proofs.Moves

/-!
# Reachable states

A `World` is a navigator together with every outline it has handed out. Its steps are the operations
on documents, in any order and with any answers of the provider, and also the parts of a move on
their own: looking an outline up, receiving an answer, and moving with an outline that was handed
out earlier, whatever happened since.

In every reachable world each cached outline is non-empty and in repair, and what is staged for a
document are targets of the outline cached for it now. The stamps carry the argument: handles with
the same stamp are the same handle, so a move never meets the session of another outline.
-/

namespace OutlineNav

/-! ## What is staged -/

/-- Every staged address leads to a target of the outline. -/
def Session.StagedIn (s : Session) (o : Outline) : Prop :=
  ∀ frame ∈ s.returns, ∀ path, some path ∈ frame →
    ∃ l, o.locate? path = some l ∧ l.symbol.isNavigable = true

theorem Session.stagedIn_of_nil {s : Session} (h : s.returns = []) (o : Outline) :
    s.StagedIn o := by
  intro frame hframe
  rw [h] at hframe
  cases hframe

theorem Session.StagedIn.mono {s t : Session} {o : Outline} (h : s.StagedIn o)
    (hsub : ∀ frame ∈ t.returns, frame ∈ s.returns) : t.StagedIn o :=
  fun frame hframe => h frame (hsub frame hframe)

theorem Session.StagedIn.record {s : Session} {o : Outline} (h : s.StagedIn o) {frame : ReturnFrame}
    (hframe : ∀ path, some path ∈ frame → ∃ l, o.locate? path = some l ∧
      l.symbol.isNavigable = true) : (s.record frame).StagedIn o := by
  rw [Session.record]
  split
  · exact h
  · rintro _ (_ | ⟨_, hmem⟩)
    · exact hframe
    · exact h _ hmem

theorem locate?_of_mem_stagedFrame {o : Outline} {selections : List Selection} {path : SymbolPath}
    (h : some path ∈ stagedFrame o selections) :
    ∃ l, o.locate? path = some l ∧ l.symbol.isNavigable = true := by
  obtain ⟨s, -, hs⟩ := List.mem_map.mp h
  rw [Nearest.returnChild] at hs
  split at hs
  · obtain ⟨l, hl, rfl⟩ := Option.map_eq_some_iff.mp hs
    have ht : o.IsTarget l := by
      apply isTarget_of_resolve s.start
      rcases Option.or_eq_some_iff.mp hl with hl | ⟨-, hl⟩
      · exact .inl hl
      · exact .inr ((Option.or_eq_some_iff.mp hl).imp_right And.right)
    exact ⟨l, ht.locate?_eq, ht.2⟩
  · cases hs

/-- A move takes frames off and stages targets only. -/
theorem stagedIn_plan {o : Outline} {s : Session} (h : s.StagedIn o) (policy : Policy)
    (direction : Direction) (select : Bool) (selections : List Selection) :
    (plan o policy direction select selections s).2.StagedIn o := by
  have hreturns := plan_returns o policy direction select selections s
  split at hreturns
  · have hrecord : (s.record (stagedFrame o selections)).StagedIn o :=
      h.record fun _ => locate?_of_mem_stagedFrame
    exact hrecord.mono fun frame hframe => hreturns ▸ hframe
  · exact h.mono fun frame hframe => Session.mem_returns_of_takeFrame (hreturns ▸ hframe)

/-! ## Worlds -/

structure World where
  navigator : Navigator
  /-- Every outline that was handed out so far. -/
  handles : List Handle

namespace World

def initial (policy : Policy) : World := ⟨.new policy, []⟩

/-- One operation on a document, or one part of a move. -/
inductive Step : World → World → Prop
  | outline (w : World) (fetch : Document → Answer) (d : Document) :
      Step w ⟨(w.navigator.outline fetch d).2, (w.navigator.outline fetch d).1 :: w.handles⟩
  | navigate (w : World) (fetch : Document → Answer) (d : Document) (selections : List Selection)
      (direction : Direction) (select : Bool) :
      Step w ⟨(w.navigator.navigate fetch d selections direction select).2,
        (w.navigator.outline fetch d).1 :: w.handles⟩
  | lookup (w : World) (d : Document) :
      Step w ⟨{ w.navigator with index := (w.navigator.index.lookup d).2 },
        (w.navigator.index.lookup d).1.toList ++ w.handles⟩
  | receive (w : World) (d : Document) (answer : Answer) :
      Step w ⟨{ w.navigator with index := (w.navigator.index.receive d answer).2 },
        (w.navigator.index.receive d answer).1 :: w.handles⟩
  | move (w : World) (d : Document) (handle : Handle) (selections : List Selection)
      (direction : Direction) (select : Bool) (known : handle ∈ w.handles) :
      Step w ⟨(w.navigator.moveWith d handle selections direction select).2, w.handles⟩
  | selectionChanged (w : World) (d : Document) (selections : List Selection) :
      Step w ⟨(w.navigator.selectionChanged d selections).2, w.handles⟩
  | documentEdited (w : World) (d : Document) : Step w ⟨w.navigator.documentEdited d, w.handles⟩
  | documentClosed (w : World) (d : Document) : Step w ⟨w.navigator.documentClosed d, w.handles⟩
  | activeEditorChanged (w : World) (previous : Option Document) :
      Step w ⟨w.navigator.activeEditorChanged previous, w.handles⟩

inductive Reachable (policy : Policy) : World → Prop
  | initial : Reachable policy (initial policy)
  | step {v w : World} : Reachable policy v → Step v w → Reachable policy w

/-! ## The invariant -/

/-- The outline is non-empty and in repair, and its targets are what is staged. -/
structure Sound (e : Entry) : Prop where
  nonempty : e.outline.isEmpty = false
  repaired : Outline.normalize e.outline.roots = e.outline
  staged : e.session.StagedIn e.outline

/-- Every outline of the cache was handed out, and a stamp names one handle only. -/
structure Inv (ix : Index) (handles : List Handle) : Prop where
  sound : ∀ d e, ix.entries.get? d = some e → Sound e
  known : ∀ d e, ix.entries.get? d = some e → e.handle ∈ handles
  fresh : ∀ h ∈ handles, ∀ stamp, h.stamp? = some stamp → stamp < ix.nextStamp
  agree : ∀ h ∈ handles, ∀ k ∈ handles, ∀ stamp, h.stamp? = some stamp → k.stamp? = some stamp →
    h = k

theorem inv_initial : Inv .empty [] where
  sound d e h := by cases h
  known d e h := by cases h
  fresh := nofun
  agree := nofun

variable {ix : Index} {handles : List Handle}

theorem inv_lookup (h : Inv ix handles) (d : Document) :
    Inv (ix.lookup d).2 ((ix.lookup d).1.toList ++ handles) := by
  rw [Index.lookup, Index.cached]
  cases he : ix.entries.get? d with
  | none => exact ⟨h.sound, h.known, h.fresh, h.agree⟩
  | some e =>
      -- the handle of a cached outline was handed out before
      have hmem : ∀ k ∈ e.handle :: handles, k ∈ handles :=
        List.forall_mem_cons.mpr ⟨h.known d e he, fun _ => id⟩
      exact ⟨h.sound, fun d e he => List.mem_cons_of_mem _ (h.known d e he),
        fun k hk => h.fresh k (hmem k hk), fun k hk m hm => h.agree k (hmem k hk) m (hmem m hm)⟩

theorem sound_normalize {symbols : List Symbol} (hne : symbols ≠ []) (stamp : Nat) :
    Sound ⟨stamp, Outline.normalize symbols, .idle⟩ where
  nonempty := List.isEmpty_eq_false_iff.mpr (Outline.normalize_roots_ne_nil hne)
  repaired := Outline.normalize_of_not_strictlyContains fun _ hs _ ht =>
    Outline.not_strictlyContains_of_mem_normalize hs ht
  staged := Session.stagedIn_of_nil rfl _

theorem inv_store (h : Inv ix handles) (d : Document) {symbols : List Symbol} (hne : symbols ≠ []) :
    Inv (ix.store d symbols).2 ((ix.store d symbols).1 :: handles) := by
  have hentries : ∀ d' e', (ix.store d symbols).2.entries.get? d' = some e' →
      e' = ⟨ix.nextStamp, Outline.normalize symbols, .idle⟩ ∨ ix.entries.get? d' = some e' := by
    intro d' e' he'
    rw [Index.store] at he'
    by_cases hd : d' = d
    · rw [hd, Table.get?_insert_self] at he'
      exact .inl (Option.some.inj he').symm
    · rw [Table.get?_insert_ne _ hd] at he'
      exact .inr he'
  constructor
  · intro d' e' he'
    rcases hentries d' e' he' with rfl | he'
    · exact sound_normalize hne _
    · exact h.sound d' e' he'
  · intro d' e' he'
    rcases hentries d' e' he' with rfl | he'
    · exact List.mem_cons_self ..
    · exact List.mem_cons_of_mem _ (h.known d' e' he')
  · refine List.forall_mem_cons.mpr ⟨?_, fun k hk stamp hstamp => ?_⟩
    · rintro _ ⟨⟩
      exact Nat.lt_succ_self _
    · exact Nat.lt_succ_of_lt (h.fresh k hk stamp hstamp)
  · -- the new stamp is none of the old ones
    rintro k (_ | ⟨_, hk⟩) m (_ | ⟨_, hm⟩) stamp hks hms
    · rfl
    · cases hks
      exact absurd (h.fresh m hm _ hms) (Nat.lt_irrefl _)
    · cases hms
      exact absurd (h.fresh k hk _ hks) (Nat.lt_irrefl _)
    · exact h.agree k hk m hm stamp hks hms

theorem inv_receive (h : Inv ix handles) (d : Document) (answer : Answer) :
    Inv (ix.receive d answer).2 ((ix.receive d answer).1 :: handles) := by
  rw [Index.receive]
  cases hsymbols : answer.symbols? with
  | none =>
      refine ⟨h.sound, fun d e he => List.mem_cons_of_mem _ (h.known d e he),
        List.forall_mem_cons.mpr ⟨fun _ hstamp => (by cases hstamp), h.fresh⟩, ?_⟩
      rintro k (_ | ⟨_, hk⟩) m (_ | ⟨_, hm⟩) stamp hks hms
      · rfl
      · cases hks
      · cases hms
      · exact h.agree k hk m hm stamp hks hms
  | some symbols =>
      refine inv_store h d ?_
      unfold Answer.symbols? at hsymbols
      split at hsymbols
      · cases hsymbols
        exact List.cons_ne_nil _ _
      · cases hsymbols

theorem inv_getOutline (h : Inv ix handles) (d : Document) (fetch : Document → Answer) :
    Inv (ix.getOutline d fetch).2 ((ix.getOutline d fetch).1 :: handles) := by
  have hlookup := inv_lookup h d
  rw [Index.getOutline]
  split
  · next he => rw [he] at hlookup; exact hlookup
  · next he => rw [he] at hlookup; exact inv_receive hlookup d (fetch d)

theorem inv_updateSession (h : Inv ix handles) {d : Document} {session : Session}
    (hsession : ∀ e, ix.entries.get? d = some e → session.StagedIn e.outline) :
    Inv (ix.updateSession d session) handles := by
  have hentries : ∀ d' e', (ix.updateSession d session).entries.get? d' = some e' →
      ∃ e, ix.entries.get? d' = some e ∧ (e' = e ∨ d' = d ∧ e' = { e with session }) := by
    intro d' e' he'
    rw [Index.updateSession] at he'
    by_cases hd : d' = d
    · subst hd
      rw [Table.get?_modify_self] at he'
      obtain ⟨e, he, rfl⟩ := Option.map_eq_some_iff.mp he'
      exact ⟨e, he, .inr ⟨rfl, rfl⟩⟩
    · rw [Table.get?_modify_ne _ hd] at he'
      exact ⟨e', he', .inl rfl⟩
  refine ⟨fun d' e' he' => ?_, fun d' e' he' => ?_, h.fresh, h.agree⟩
  · obtain ⟨e, he, rfl | ⟨rfl, rfl⟩⟩ := hentries d' e' he'
    · exact h.sound d' e' he
    · have hsound := h.sound d' e he
      exact ⟨hsound.nonempty, hsound.repaired, hsession e he⟩
  · obtain ⟨e, he, rfl | ⟨rfl, rfl⟩⟩ := hentries d' e' he'
    · exact h.known d' e' he
    · exact h.known d' e he

theorem inv_invalidate (h : Inv ix handles) (d : Document) : Inv (ix.invalidate d).2 handles := by
  have hentries : ∀ d' e', (ix.invalidate d).2.entries.get? d' = some e' →
      ix.entries.get? d' = some e' := by
    intro d' e' he'
    rw [Index.invalidate] at he'
    by_cases hd : d' = d
    · rw [hd, Table.get?_erase_self] at he'
      cases he'
    · rwa [Table.get?_erase_ne _ hd] at he'
  exact ⟨fun d' e' he' => h.sound d' e' (hentries d' e' he'),
    fun d' e' he' => h.known d' e' (hentries d' e' he'), h.fresh, h.agree⟩

/-- A handle that reaches the session of an outline is the handle of that outline. -/
theorem Inv.handle_eq (h : Inv ix handles) {d : Document} {e : Entry}
    (he : ix.entries.get? d = some e) {handle : Handle} (hhandle : handle ∈ handles)
    (hstamp : handle.stamp? = some e.stamp) : handle = e.handle :=
  h.agree handle hhandle e.handle (h.known d e he) e.stamp hstamp rfl

theorem inv_withSession {α : Type} (h : Inv ix handles) (d : Document) {handle : Handle}
    (hhandle : handle ∈ handles) {f : Session → α × Session}
    (hf : ∀ s, s.StagedIn handle.outline → (f s).2.StagedIn handle.outline) :
    Inv (ix.withSession d handle f).2 handles := by
  rw [Index.withSession]
  split
  · next e he =>
    split
    · next hstamp =>
      obtain rfl := h.handle_eq he hhandle hstamp
      refine inv_updateSession h fun e' he' => ?_
      rw [he, Option.some.injEq] at he'
      subst he'
      exact hf e.session (h.sound d e he).staged
    · exact h
  · exact h

theorem inv_withCurrentSession {α : Type} (h : Inv ix handles) (d : Document)
    {f : Session → α × Session} (hf : ∀ o s, s.StagedIn o → (f s).2.StagedIn o) :
    Inv (ix.withCurrentSession d f).2 handles := by
  rw [Index.withCurrentSession]
  split
  · next e he =>
    refine inv_updateSession h fun e' he' => ?_
    rw [he, Option.some.injEq] at he'
    subst he'
    exact hf e.outline e.session (h.sound d e he).staged
  · exact h

theorem inv_moveWith {n : Navigator} (h : Inv n.index handles) (d : Document) {handle : Handle}
    (hhandle : handle ∈ handles) (selections : List Selection) (direction : Direction)
    (select : Bool) :
    Inv (n.moveWith d handle selections direction select).2.index handles := by
  rw [Navigator.moveWith]
  split
  · exact h
  · exact inv_withSession h d hhandle fun _ hs => stagedIn_plan hs _ _ _ _

theorem stagedIn_selectionChanged {o : Outline} {s : Session} (h : s.StagedIn o)
    (selections : List Selection) : (s.selectionChanged selections).2.StagedIn o := by
  rw [Session.selectionChanged]
  split
  · exact h
  · exact Session.stagedIn_of_nil rfl _

theorem inv_step {v w : World} (h : Inv v.navigator.index v.handles) (hstep : Step v w) :
    Inv w.navigator.index w.handles := by
  cases hstep with
  | outline fetch d => exact inv_getOutline h d fetch
  | navigate fetch d selections direction select =>
      have houtline : Inv (v.navigator.outline fetch d).2.index
          ((v.navigator.outline fetch d).1 :: v.handles) := inv_getOutline h d fetch
      exact inv_moveWith houtline d (List.mem_cons_self ..) selections direction select
  | lookup d => exact inv_lookup h d
  | receive d answer => exact inv_receive h d answer
  | move d handle selections direction select hknown =>
      exact inv_moveWith h d hknown selections direction select
  | selectionChanged d selections =>
      exact inv_withCurrentSession h d fun _ _ hs => stagedIn_selectionChanged hs selections
  | documentEdited d => exact inv_invalidate h d
  | documentClosed d => exact inv_invalidate h d
  | activeEditorChanged previous =>
      cases previous with
      | none => exact h
      | some d => exact inv_invalidate h d

theorem inv_reachable {policy : Policy} {w : World} (h : Reachable policy w) :
    Inv w.navigator.index w.handles := by
  induction h with
  | initial => exact inv_initial
  | step _ hstep ih => exact inv_step ih hstep

end World

/-! ## What the invariant says about moves -/

/-- In every reachable world the outline cached for a document is non-empty and in repair, and the
addresses in the return stack lead to targets of that very outline: a move to the child sends each
selection to the symbol that is staged for it. -/
theorem reachable_cached {policy : Policy} {w : World} (hw : World.Reachable policy w)
    {d : Document} {e : Entry} (he : w.navigator.index.entries.get? d = some e) :
    e.outline.isEmpty = false ∧ Outline.normalize e.outline.roots = e.outline ∧
      (∀ frame ∈ e.session.returns, ∀ path, some path ∈ frame →
        ∃ l, e.outline.locate? path = some l ∧ l.symbol.isNavigable = true) ∧
      ∀ frame rest, e.session.returns = frame :: rest → ∀ slot path,
        frame[slot]? = some (some path) → ∀ selections select, slot < selections.length →
          ∃ l, e.outline.locate? path = some l ∧
            (∀ fetch, (w.navigator.navigate fetch d selections .child select).1.targets[slot]? =
              some (some l.target)) ∧
            ∀ handle ∈ w.handles, handle.stamp? = some e.stamp →
              (w.navigator.moveWith d handle selections .child select).1.targets[slot]? =
                some (some l.target) := by
  have hinv := World.inv_reachable hw
  have hsound := hinv.sound d e he
  refine ⟨hsound.nonempty, hsound.repaired, hsound.staged, ?_⟩
  intro frame rest hreturns slot path hslot selections select hlength
  obtain ⟨l, hl, -⟩ := hsound.staged frame (hreturns ▸ List.mem_cons_self ..) path
    (List.mem_of_getElem? hslot)
  have htargets := targets_of_staged hreturns hslot hl w.navigator.policy select hlength
  refine ⟨l, hl, fun fetch => ?_, fun handle hhandle hstamp => ?_⟩
  · obtain ⟨_, hmove, -⟩ :=
      Navigator.navigate_of_cached he hsound.nonempty fetch selections .child select
    rw [hmove]
    exact htargets
  · rw [hinv.handle_eq he hhandle hstamp, Navigator.moveWith_of_cached he hsound.nonempty]
    exact htargets

/-- The provider knows the symbols of the sample. -/
def sampleFetch : Document → Answer := fun _ => .ok (some Outline.sample.roots)

/-- The outline of the sample was asked for, and a caret has moved from the field to the class. -/
theorem reachable_cached_sample :
    ∃ w e, World.Reachable ⟨false⟩ w ∧ w.navigator.index.entries.get? "shop" = some e ∧
      e.outline = Outline.sample ∧ e.session.returns = [[some [0, 0, 0]]] ∧
      ∃ l, e.outline.locate? [0, 0, 0] = some l ∧
        (w.navigator.navigate sampleFetch "shop" [.caret ⟨0, 0⟩] .child false).1.targets[0]? =
          some (some l.target) := by
  have h : Outline.sample.Orderly := by decide
  have ht : Outline.sample.IsTarget samplePrice := ⟨by decide, by decide⟩
  have hrepaired : Outline.normalize Outline.sample.roots = Outline.sample :=
    Outline.normalize_of_not_strictlyContains (by decide)
  let v : World := ⟨((Navigator.new ⟨false⟩).outline sampleFetch "shop").2,
    [((Navigator.new ⟨false⟩).outline sampleFetch "shop").1]⟩
  have hv : World.Reachable ⟨false⟩ v := .step .initial (.outline _ sampleFetch "shop")
  have hcached : v.navigator.index.entries.get? "shop" = some ⟨0, Outline.sample, .idle⟩ := by
    rw [← hrepaired]
    exact Table.get?_insert_self ..
  obtain ⟨m, hmove, hm⟩ := Navigator.navigate_of_cached hcached rfl sampleFetch samplePrice.caret
    .parent false
  have hw := hv.step (.navigate v sampleFetch "shop" samplePrice.caret .parent false)
  rw [hmove] at hw
  have hreturns :=
    plan_returns Outline.sample v.navigator.policy .parent false samplePrice.caret .idle
  rw [if_pos rfl, h.stagedFrame_caret ht (by decide)] at hreturns
  obtain ⟨-, -, -, hchild⟩ := reachable_cached hw hm
  obtain ⟨l, hl, hnavigate, -⟩ :=
    hchild _ _ hreturns 0 [0, 0, 0] rfl [.caret ⟨0, 0⟩] false (by decide)
  exact ⟨_, _, hw, hm, rfl, hreturns, l, hl, hnavigate sampleFetch⟩

end OutlineNav
