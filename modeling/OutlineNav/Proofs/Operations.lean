import OutlineNav.Proofs.CacheHistory
import OutlineNav.Proofs.Moves

/-!
# Operations on documents

Moves, readings of outlines and the events of an editor, one after another on one navigator.

What an operation on a document replies, and what is kept of the document afterwards, depends on
what was kept of it and on the answer to a fetch, and on nothing else (`Operation.act`,
`perform_of_concerns`). An operation on another document keeps it as it is
(`kept_perform_of_not_concerns`).
-/

namespace OutlineNav

variable {ω : Type}

/-! ## Operations and replies -/

inductive Operation where
  | navigate (d : Document) (selections : List Selection) (direction : Direction) (select : Bool)
  | outline (d : Document)
  | selectionChanged (d : Document) (selections : List Selection)
  | documentEdited (d : Document)
  | documentClosed (d : Document)
  | activeEditorChanged (previous : Option Document)
  /-- All documents are dropped from the cache. -/
  | clear
  deriving DecidableEq

inductive Reply where
  | moved (outcome : Outcome)
  | outline (outline : Outline)
  | highlights (update : HighlightUpdate)
  | nothing
  deriving DecidableEq

namespace Operation

def concerns (d : Document) : Operation → Bool
  | .navigate d' .. | .outline d' | .selectionChanged d' _ | .documentEdited d'
  | .documentClosed d' => d' = d
  | .activeEditorChanged previous => previous = some d
  | .clear => true

/-- The operation needs the outline of its document. -/
def reads : Operation → Bool
  | .navigate .. | .outline _ => true
  | _ => false

def perform (p : Provider (StateM ω)) (n : Navigator) : Operation → StateM ω (Reply × Navigator)
  | .navigate d selections direction select => do
    let (outcome, n) ← n.navigateBy p d selections direction select
    return (.moved outcome, n)
  | .outline d => do
    let (o, n) ← n.outlineBy p d
    return (.outline o, n)
  | .selectionChanged d selections =>
    let (update, n) := n.selectionChanged d selections
    return (.highlights update, n)
  | .documentEdited d => return (.nothing, n.documentEdited d)
  | .documentClosed d => do
    p.close d
    return (.nothing, n.documentClosed d)
  | .activeEditorChanged previous => return (.nothing, n.activeEditorChanged previous)
  | .clear => return (.nothing, { n with index := n.index.clear })

/-- Performs one operation after another: each with its reply, and the navigator afterwards. -/
def performAll (p : Provider (StateM ω)) :
    List Operation → Navigator → StateM ω (List (Operation × Reply) × Navigator)
  | [], n => return ([], n)
  | op :: rest, n => do
    let (reply, n) ← op.perform p n
    let (later, n) ← performAll p rest n
    return ((op, reply) :: later, n)

end Operation

/-! ## What is kept of one document -/

/-- The outline and the session that are kept of a document. -/
abbrev Kept := Option (Outline × Session)

namespace Kept

/-- After a reading: what was there, or else what the fetch has brought. -/
def read (answer : Answer) (kept : Kept) : Kept :=
  kept.or (answer.symbols?.map fun symbols => (Outline.normalize symbols, .idle))

def outline (kept : Kept) : Outline := (kept.map Prod.fst).getD .empty

def session? (kept : Kept) : Option Session := kept.map Prod.snd

def move (policy : Policy) (selections : List Selection) (direction : Direction) (select : Bool) :
    Kept → Outcome × Kept
  | some (o, s) =>
    if o.isEmpty then (.unchanged selections, some (o, s))
    else
      let (outcome, s) := plan o policy direction select selections s
      (outcome, some (o, s))
  | none => (.unchanged selections, none)

def selectionChanged (selections : List Selection) : Kept → HighlightUpdate × Kept
  | some (o, s) =>
    let (update, s) := s.selectionChanged selections
    (update, some (o, s))
  | none => (.clear, none)

end Kept

/-- What an operation on a document replies and what is kept of it afterwards, where `answer` is
what a fetch would bring. -/
def Operation.act (policy : Policy) (answer : Answer) (kept : Kept) : Operation → Reply × Kept
  | .navigate _ selections direction select =>
    let (outcome, kept) := (kept.read answer).move policy selections direction select
    (.moved outcome, kept)
  | .outline _ => (.outline (kept.read answer).outline, kept.read answer)
  | .selectionChanged _ selections =>
    let (update, kept) := kept.selectionChanged selections
    (.highlights update, kept)
  | .documentEdited _ | .documentClosed _ | .activeEditorChanged _ | .clear => (.nothing, none)

/-! ## Readings, moves and evictions of a cache -/

namespace Index

def kept (ix : Index) (d : Document) : Kept :=
  (ix.entries.get? d).map fun e => (e.outline, e.session)

variable {ix : Index} {d : Document}

theorem kept_of_some {e : Entry} (h : ix.entries.get? d = some e) :
    ix.kept d = some (e.outline, e.session) := congrArg _ h

theorem kept_of_none (h : ix.entries.get? d = none) : ix.kept d = none := congrArg _ h

theorem kept_of_entries {ix' : Index} (h : ix'.entries.get? d = ix.entries.get? d) :
    ix'.kept d = ix.kept d := by
  rw [kept, kept, h]

theorem session?_eq (ix : Index) (d : Document) : ix.session? d = (ix.kept d).session? := by
  rw [session?, kept, Kept.session?, Option.map_map]
  rfl

theorem kept_updateSession_self {e : Entry} (h : ix.entries.get? d = some e) (session : Session) :
    (ix.updateSession d session).kept d = some (e.outline, session) := by
  rw [kept, updateSession, Table.get?_modify_self, h]
  rfl

theorem kept_updateSession_ne {other : Document} (h : other ≠ d) (session : Session) :
    (ix.updateSession d session).kept other = ix.kept other :=
  kept_of_entries (Table.get?_modify_ne _ h _)

theorem kept_invalidate_self (ix : Index) (d : Document) : (ix.invalidate d).2.kept d = none := by
  rw [kept, invalidate, Table.get?_erase_self]
  rfl

theorem kept_invalidate_ne {other : Document} (h : other ≠ d) :
    (ix.invalidate d).2.kept other = ix.kept other :=
  kept_of_entries (Table.get?_erase_ne _ h)

theorem kept_receive_ne {other : Document} (h : other ≠ d) (answer : Answer) :
    (ix.receive d answer).2.kept other = ix.kept other := by
  rw [receive]
  split
  · exact kept_of_entries (Table.get?_insert_ne _ h _)
  · rfl

/-- A handle is that of what is kept, or of nothing if nothing is kept. -/
def IsHandle (ix : Index) (d : Document) (handle : Handle) : Prop :=
  (∃ e, ix.entries.get? d = some e ∧ handle = e.handle) ∨
    (ix.entries.get? d = none ∧ handle = .absent)

theorem IsHandle.outline_eq {handle : Handle} (h : ix.IsHandle d handle) :
    handle.outline = (ix.kept d).outline := by
  rcases h with ⟨e, he, rfl⟩ | ⟨he, rfl⟩
  · rw [kept_of_some he]
    rfl
  · rw [kept_of_none he]
    rfl

theorem getOutlineBy_of_cached (p : Provider (StateM ω)) {e : Entry}
    (h : ix.entries.get? d = some e) (w : ω) :
    (ix.getOutlineBy p d).run w = ((e.handle, { ix with hits := ix.hits + 1 }), w) := by
  simp only [getOutlineBy, lookup, cached, h, Option.map_some]
  rfl

theorem getOutlineBy_of_not_cached (p : Provider (StateM ω)) (h : ix.entries.get? d = none)
    (w : ω) :
    (ix.getOutlineBy p d).run w =
      (receive { ix with misses := ix.misses + 1 } d ((p.symbols d).run w).1,
        ((p.symbols d).run w).2) := by
  simp only [getOutlineBy, lookup, cached, h, Option.map_none]
  rfl

/-- A reading leaves what the document had, or else what the fetch has brought, and hands that
out. -/
theorem getOutlineBy_self (p : Provider (StateM ω)) (ix : Index) (d : Document) (w : ω) :
    ((ix.getOutlineBy p d).run w).1.2.IsHandle d ((ix.getOutlineBy p d).run w).1.1 ∧
      ((ix.getOutlineBy p d).run w).1.2.kept d = (ix.kept d).read ((p.symbols d).run w).1 := by
  cases he : ix.entries.get? d with
  | some e =>
      rw [getOutlineBy_of_cached p he, kept_of_some he]
      exact ⟨.inl ⟨e, he, rfl⟩, kept_of_some he⟩
  | none =>
      rw [getOutlineBy_of_not_cached p he, kept_of_none he, Kept.read]
      cases hsymbols : ((p.symbols d).run w).1.symbols? with
      | none =>
          rw [receive_of_none _ _ hsymbols]
          exact ⟨.inr ⟨he, rfl⟩, kept_of_none he⟩
      | some symbols =>
          rw [receive_of_some _ _ hsymbols]
          have hself : ((store { ix with misses := ix.misses + 1 } d symbols).2.entries.get? d) =
              some ⟨ix.nextStamp, Outline.normalize symbols, .idle⟩ := Table.get?_insert_self _ _ _
          exact ⟨.inl ⟨_, hself, rfl⟩, kept_of_some hself⟩

theorem getOutlineBy_ne (p : Provider (StateM ω)) (ix : Index) {d other : Document} (h : other ≠ d)
    (w : ω) : ((ix.getOutlineBy p d).run w).1.2.kept other = ix.kept other := by
  cases he : ix.entries.get? d with
  | some e =>
      rw [getOutlineBy_of_cached p he]
      rfl
  | none =>
      rw [getOutlineBy_of_not_cached p he]
      exact kept_receive_ne h _

/-- The provider is asked only if nothing is kept. -/
theorem getOutlineBy_world (p : Provider (StateM ω)) (ix : Index) (d : Document) (w : ω) :
    ((ix.getOutlineBy p d).run w).2 =
      if (ix.kept d).isNone then ((p.symbols d).run w).2 else w := by
  cases he : ix.entries.get? d with
  | some e =>
      rw [getOutlineBy_of_cached p he, kept_of_some he]
      rfl
  | none =>
      rw [getOutlineBy_of_not_cached p he, kept_of_none he]
      rfl

theorem kept_withSession_ne {α : Type} {other : Document} (h : other ≠ d) (handle : Handle)
    (f : Session → α × Session) : (ix.withSession d handle f).2.kept other = ix.kept other := by
  rw [withSession]
  split
  · split
    · exact kept_updateSession_ne h _
    · rfl
  · rfl

theorem kept_withCurrentSession_ne {α : Type} {other : Document} (h : other ≠ d)
    (f : Session → α × Session) : (ix.withCurrentSession d f).2.kept other = ix.kept other := by
  rw [withCurrentSession]
  split
  · exact kept_updateSession_ne h _
  · rfl

end Index

namespace Navigator

variable {n : Navigator} {d : Document}

/-- A move by the handle of what is kept, if anything is. -/
theorem moveWith_self {handle : Handle} (h : n.index.IsHandle d handle)
    (selections : List Selection) (direction : Direction) (select : Bool) :
    ((n.moveWith d handle selections direction select).1,
        (n.moveWith d handle selections direction select).2.index.kept d) =
      (n.index.kept d).move n.policy selections direction select := by
  rcases h with ⟨e, he, rfl⟩ | ⟨he, rfl⟩
  · rw [Index.kept_of_some he, Kept.move]
    split
    · next hempty =>
      have hstays : n.moveWith d e.handle selections direction select =
          (.unchanged selections, n) := if_pos hempty
      rw [hstays, Index.kept_of_some he]
    · next hne =>
      rw [moveWith_of_cached he (Bool.eq_false_of_not_eq_true hne),
        Index.kept_updateSession_self he]
  · have hstays :
        n.moveWith d .absent selections direction select = (.unchanged selections, n) := rfl
    rw [hstays, Index.kept_of_none he]
    rfl

theorem moveWith_ne {other : Document} (h : other ≠ d) (handle : Handle)
    (selections : List Selection) (direction : Direction) (select : Bool) :
    (n.moveWith d handle selections direction select).2.index.kept other = n.index.kept other := by
  rw [moveWith]
  split
  · rfl
  · exact Index.kept_withSession_ne h handle _

theorem moveWith_policy (n : Navigator) (d : Document) (handle : Handle)
    (selections : List Selection) (direction : Direction) (select : Bool) :
    (n.moveWith d handle selections direction select).2.policy = n.policy := by
  rw [moveWith]
  split <;> rfl

theorem selectionChanged_self (n : Navigator) (d : Document) (selections : List Selection) :
    ((n.selectionChanged d selections).1, (n.selectionChanged d selections).2.index.kept d) =
      (n.index.kept d).selectionChanged selections := by
  rw [selectionChanged, Index.withCurrentSession]
  cases he : n.index.entries.get? d with
  | some e =>
      dsimp only
      rw [Index.kept_updateSession_self he, Index.kept, he]
      rfl
  | none =>
      rw [Index.kept, he]
      rfl

theorem selectionChanged_ne {other : Document} (h : other ≠ d) (selections : List Selection) :
    (n.selectionChanged d selections).2.index.kept other = n.index.kept other :=
  Index.kept_withCurrentSession_ne h (·.selectionChanged selections)

end Navigator

/-! ## One operation -/

namespace Operation

variable (p : Provider (StateM ω)) {op : Operation} {d : Document}

/-- An operation leaves the policy as it is. -/
theorem policy_perform (op : Operation) (n : Navigator) (w : ω) :
    ((op.perform p n).run w).1.2.policy = n.policy := by
  cases op with
  | navigate d selections direction select => exact Navigator.moveWith_policy ..
  | activeEditorChanged previous => cases previous <;> rfl
  | _ => rfl

/-- An operation on a document replies and leaves what is kept of it makes it. -/
theorem perform_of_concerns (h : op.concerns d = true) (n : Navigator) (w : ω) :
    (((op.perform p n).run w).1.1, ((op.perform p n).run w).1.2.index.kept d) =
      op.act n.policy ((p.symbols d).run w).1 (n.index.kept d) := by
  cases op with
  | navigate d' selections direction select =>
      obtain rfl : d' = d := of_decide_eq_true h
      obtain ⟨hhandle, hkept⟩ := Index.getOutlineBy_self p n.index d' w
      have hmove :=
        Navigator.moveWith_self (n := { n with index := _ }) hhandle selections direction select
      rw [hkept] at hmove
      exact congrArg (fun r => (Reply.moved r.1, r.2)) hmove
  | outline d' =>
      obtain rfl : d' = d := of_decide_eq_true h
      obtain ⟨hhandle, hkept⟩ := Index.getOutlineBy_self p n.index d' w
      have houtline := hhandle.outline_eq
      rw [hkept] at houtline
      exact Prod.ext (congrArg Reply.outline houtline) hkept
  | selectionChanged d' selections =>
      obtain rfl : d' = d := of_decide_eq_true h
      exact congrArg (fun r => (Reply.highlights r.1, r.2)) (n.selectionChanged_self d' selections)
  | documentEdited d' | documentClosed d' =>
      obtain rfl : d' = d := of_decide_eq_true h
      exact Prod.ext rfl (Index.kept_invalidate_self n.index d')
  | activeEditorChanged previous =>
      obtain rfl : previous = some d := of_decide_eq_true h
      exact Prod.ext rfl (Index.kept_invalidate_self n.index d)
  | clear => rfl

/-- An operation on another document does not touch what is kept of this one. -/
theorem kept_perform_of_not_concerns (h : op.concerns d = false) (n : Navigator) (w : ω) :
    ((op.perform p n).run w).1.2.index.kept d = n.index.kept d := by
  cases op with
  | navigate d' selections direction select =>
      have hne : d ≠ d' := Ne.symm (of_decide_eq_false h)
      exact (Navigator.moveWith_ne hne ..).trans (Index.getOutlineBy_ne p n.index hne w)
  | outline d' => exact Index.getOutlineBy_ne p n.index (Ne.symm (of_decide_eq_false h)) w
  | selectionChanged d' selections =>
      exact Navigator.selectionChanged_ne (Ne.symm (of_decide_eq_false h)) selections
  | documentEdited d' | documentClosed d' =>
      exact Index.kept_invalidate_ne (Ne.symm (of_decide_eq_false h))
  | activeEditorChanged previous =>
      cases previous with
      | none => rfl
      | some d' =>
          have hne : d ≠ d' := fun heq => of_decide_eq_false h (congrArg some heq.symm)
          exact Index.kept_invalidate_ne hne
  | clear => cases h

/-! ### Runs -/

theorem run_performAll_cons (op : Operation) (ops : List Operation) (n : Navigator) (w : ω) :
    (performAll p (op :: ops) n).run w =
      let first := (op.perform p n).run w
      let rest := (performAll p ops first.1.2).run first.2
      (((op, first.1.1) :: rest.1.1, rest.1.2), rest.2) :=
  rfl

/-- What every operation of a run keeps, the run keeps, and what every reply satisfies that is given
while it holds, all replies of the run satisfy. -/
theorem performAll_induction {allowed : Operation → Prop} (holds : Navigator → Prop)
    {fits : Operation → Reply → Prop}
    (step : ∀ op, allowed op → ∀ n w, holds n →
      holds ((op.perform p n).run w).1.2 ∧ fits op ((op.perform p n).run w).1.1)
    {ops : List Operation} (hops : ∀ op ∈ ops, allowed op) :
    ∀ (n : Navigator) (w : ω), holds n →
      holds ((performAll p ops n).run w).1.2 ∧
        ∀ op reply, (op, reply) ∈ ((performAll p ops n).run w).1.1 → fits op reply := by
  induction ops with
  | nil => exact fun n w h => ⟨h, nofun⟩
  | cons op ops ih =>
      intro n w h
      obtain ⟨hop, hrest⟩ := List.forall_mem_cons.mp hops
      obtain ⟨hholds, hfits⟩ := step op hop n w h
      obtain ⟨hend, hreplies⟩ := ih hrest _ ((op.perform p n).run w).2 hholds
      rw [run_performAll_cons]
      refine ⟨hend, fun op' reply hmem => ?_⟩
      rcases List.mem_cons.mp hmem with heq | hmem
      · cases heq
        exact hfits
      · exact hreplies op' reply hmem

end Operation

end OutlineNav
