import OutlineNav.Proofs.Operations

/-!
# Echoes of moves

A move produces selections, and the editor reports them back: the echo of the move. While nothing
but echoes is heard of a document, its highlights are applied again and what is staged for it stays.
Any other change of its selections, and any eviction of the document, ends that for good: until its
next move every change of the selections clears the highlights, and nothing is staged.

The session of the document is in one of two states meanwhile. After the move it remembers the
selections and the highlights of the move, and only an operation that disturbs it changes it at all
(`perform_of_quiet`). Once disturbed it is idle or gone (`perform_of_disturbs`), and only a move
changes that (`perform_of_idle`).
-/

namespace OutlineNav

variable {ω : Type}

/-! ## Idle documents -/

namespace Kept

/-- The session is idle, if there is one. -/
def IsIdle (kept : Kept) : Prop := ∀ s, kept.session? = some s → s = .idle

variable {kept : Kept}

theorem isIdle_none : IsIdle none := nofun

theorem isIdle_some (o : Outline) : IsIdle (some (o, .idle)) := by
  rintro _ ⟨⟩
  rfl

/-- A fetch brings an idle session. -/
theorem IsIdle.read (h : kept.IsIdle) (answer : Answer) : (kept.read answer).IsIdle := by
  cases kept with
  | some k => exact h
  | none =>
      rw [Kept.read, Option.none_or]
      cases answer.symbols? with
      | none => exact isIdle_none
      | some symbols => exact isIdle_some _

/-- An idle session takes no selections for an echo. -/
theorem IsIdle.selectionChanged (h : kept.IsIdle) (selections : List Selection) :
    kept.selectionChanged selections = (.clear, kept) := by
  cases kept with
  | none => rfl
  | some k =>
      obtain ⟨o, s⟩ := k
      obtain rfl := h s rfl
      rfl

theorem selectionChanged_of_ne {o : Outline} {s : Session} {selections others : List Selection}
    (hlast : s.lastSelections = some selections) (hne : others ≠ selections) :
    Kept.selectionChanged others (some (o, s)) = (.clear, some (o, .idle)) := by
  have hecho : s.lastSelections ≠ some others := fun heq =>
    hne (Option.some.inj (heq.symm.trans hlast))
  rw [Kept.selectionChanged, Session.selectionChanged, if_neg hecho]

theorem move_of_nonempty (hne : kept.outline.isEmpty = false) (policy : Policy)
    (selections : List Selection) (direction : Direction) (select : Bool) :
    ∃ o s, kept = some (o, s) ∧ kept.move policy selections direction select =
      ((plan o policy direction select selections s).1,
        some (o, (plan o policy direction select selections s).2)) := by
  cases kept with
  | none => cases hne
  | some k =>
      obtain ⟨o, s⟩ := k
      have hne' : ¬o.isEmpty = true := Bool.eq_false_iff.mp hne
      refine ⟨o, s, rfl, ?_⟩
      rw [move, if_neg hne']

end Kept

namespace Operation

/-! ## Operations after a move -/

/-- An echo of the selections, a reading of the outline, or anything about other documents. -/
def IsQuiet (d : Document) (selections : List Selection) (op : Operation) : Prop :=
  op = .selectionChanged d selections ∨ op = .outline d ∨ op.concerns d = false

/-- The document is dropped from the cache. -/
def evicts (d : Document) : Operation → Bool
  | .documentEdited d' | .documentClosed d' => d' = d
  | .activeEditorChanged previous => previous = some d
  | .clear => true
  | .navigate .. | .outline _ | .selectionChanged .. => false

/-- Other selections than those, or an eviction. -/
def Disturbs (d : Document) (selections : List Selection) (op : Operation) : Prop :=
  (∃ others, others ≠ selections ∧ op = .selectionChanged d others) ∨ op.evicts d = true

def isMoveOf (d : Document) : Operation → Bool
  | .navigate d' .. => d' = d
  | _ => false

theorem concerns_of_evicts {op : Operation} {d : Document} (h : op.evicts d = true) :
    op.concerns d = true := by
  cases op with
  | navigate | outline | selectionChanged => cases h
  | _ => exact h

/-! ## The two states of a session -/

/-- The reply to a change of the selections of the document is this one. -/
def Answers (d : Document) (update : HighlightUpdate) (op : Operation) (reply : Reply) : Prop :=
  ∀ selections, op = .selectionChanged d selections → reply = .highlights update

variable {p : Provider (StateM ω)} {d : Document} {op : Operation}

/-- A quiet operation changes nothing of the document, and an echo is answered by the highlights. -/
theorem perform_of_quiet {selections : List Selection} (hop : op.IsQuiet d selections)
    {n : Navigator} {o : Outline} {s : Session} (hkept : n.index.kept d = some (o, s))
    (hlast : s.lastSelections = some selections) (w : ω) :
    ((op.perform p n).run w).1.2.index.kept d = some (o, s) ∧
      op.Answers d (.reapply s.highlights) ((op.perform p n).run w).1.1 := by
  cases hconcerns : op.concerns d with
  | false =>
      refine ⟨(kept_perform_of_not_concerns p hconcerns n w).trans hkept, ?_⟩
      rintro others rfl
      exact absurd rfl (of_decide_eq_false hconcerns)
  | true =>
      have hact := perform_of_concerns p hconcerns n w
      rw [hkept] at hact
      rcases hop with rfl | rfl | hop
      · rw [act, Kept.selectionChanged, Session.selectionChanged, if_pos hlast] at hact
        obtain ⟨hreply, hkept'⟩ := Prod.mk.inj hact
        exact ⟨hkept', fun _ _ => hreply⟩
      · exact ⟨(Prod.mk.inj hact).2, nofun⟩
      · cases hconcerns.symm.trans hop

/-- What disturbs a document leaves it idle, and is answered by clearing. -/
theorem perform_of_disturbs {selections : List Selection} (hop : op.Disturbs d selections)
    {n : Navigator} {o : Outline} {s : Session} (hkept : n.index.kept d = some (o, s))
    (hlast : s.lastSelections = some selections) (w : ω) :
    (((op.perform p n).run w).1.2.index.kept d).IsIdle ∧
      op.Answers d .clear ((op.perform p n).run w).1.1 := by
  rcases hop with ⟨others, hne, rfl⟩ | hevicts
  · have hconcerns : (selectionChanged d others).concerns d = true := decide_eq_true rfl
    have hact := perform_of_concerns p hconcerns n w
    rw [hkept, act, Kept.selectionChanged_of_ne hlast hne] at hact
    obtain ⟨hreply, hkept'⟩ := Prod.mk.inj hact
    exact ⟨hkept' ▸ Kept.isIdle_some o, fun _ _ => hreply⟩
  · have hact := perform_of_concerns p (concerns_of_evicts hevicts) n w
    cases op with
    | navigate | outline | selectionChanged => cases hevicts
    | _ => exact ⟨(Prod.mk.inj hact).2 ▸ Kept.isIdle_none, nofun⟩

/-- An idle document stays idle until it is moved in, and every change of its selections is answered
by clearing. -/
theorem perform_of_idle (hop : op.isMoveOf d = false) {n : Navigator}
    (hkept : (n.index.kept d).IsIdle) (w : ω) :
    (((op.perform p n).run w).1.2.index.kept d).IsIdle ∧
      op.Answers d .clear ((op.perform p n).run w).1.1 := by
  cases hconcerns : op.concerns d with
  | false =>
      refine ⟨(kept_perform_of_not_concerns p hconcerns n w).symm ▸ hkept, ?_⟩
      rintro others rfl
      exact absurd rfl (of_decide_eq_false hconcerns)
  | true =>
      have hact := perform_of_concerns p hconcerns n w
      cases op with
      | navigate d' =>
          obtain rfl : d' = d := of_decide_eq_true hconcerns
          exact absurd rfl (of_decide_eq_false hop)
      | outline d' => exact ⟨(Prod.mk.inj hact).2 ▸ hkept.read _, nofun⟩
      | selectionChanged d' selections =>
          rw [act, hkept.selectionChanged] at hact
          obtain ⟨hreply, hkept'⟩ := Prod.mk.inj hact
          exact ⟨hkept' ▸ hkept, fun _ _ => hreply⟩
      | _ => exact ⟨(Prod.mk.inj hact).2 ▸ Kept.isIdle_none, nofun⟩

end Operation

/-! ## After a move -/

/-- A move in a document with symbols leaves a session that remembers its outcome. -/
theorem exists_session_of_navigateBy (p : Provider (StateM ω)) {n : Navigator} {d : Document}
    {w : ω} (hfound : ((n.outlineBy p d).run w).1.1.isEmpty = false) (selections : List Selection)
    (direction : Direction) (select : Bool) :
    let moved := (n.navigateBy p d selections direction select).run w
    ∃ o s, moved.1.2.index.kept d = some (o, s) ∧
      s.lastSelections = some moved.1.1.selections ∧ s.highlights = moved.1.1.highlights := by
  intro moved
  have hreads : (Operation.outline d).concerns d = true := decide_eq_true rfl
  have hmoves : (Operation.navigate d selections direction select).concerns d = true :=
    decide_eq_true rfl
  have houtline := Operation.perform_of_concerns p hreads n w
  have hnonempty : ((n.index.kept d).read ((p.symbols d).run w).1).outline.isEmpty = false := by
    rw [← Reply.outline.inj (Prod.mk.inj houtline).1]
    exact hfound
  obtain ⟨o, s, -, hplan⟩ := Kept.move_of_nonempty hnonempty n.policy selections direction select
  have hmove := Operation.perform_of_concerns p hmoves n w
  rw [Operation.act, hplan] at hmove
  obtain ⟨hreply, hkept⟩ := Prod.mk.inj hmove
  have houtcome : moved.1.1 = (plan o n.policy direction select selections s).1 :=
    Reply.moved.inj hreply
  exact ⟨o, _, hkept, by rw [houtcome]; rfl, by rw [houtcome]; rfl⟩

/-- **Echoes.** After a move in a document with symbols: while there are only echoes of its
selections, readings of the outline and operations on other documents, each echo is answered by the
highlights of the move and the session stays as the move left it. From the first change to other
selections or eviction on, until the next move in the document, every change of its selections is
answered by clearing, whichever selections they are, and the session is idle, if there is one. -/
theorem echoes_until_disturbed (p : Provider (StateM ω)) {n : Navigator} {d : Document} {w : ω}
    (hfound : ((n.outlineBy p d).run w).1.1.isEmpty = false) (selections : List Selection)
    (direction : Direction) (select : Bool) :
    let moved := (n.navigateBy p d selections direction select).run w
    let outcome := moved.1.1
    ∃ session, moved.1.2.index.session? d = some session ∧
      ∀ quiet : List Operation, (∀ op ∈ quiet, op.IsQuiet d outcome.selections) →
        let calm := (Operation.performAll p quiet moved.1.2).run moved.2
        calm.1.2.index.session? d = some session ∧
        (∀ echoed reply, (.selectionChanged d echoed, reply) ∈ calm.1.1 →
          reply = .highlights (.reapply outcome.highlights)) ∧
        ∀ (disturbing : Operation) (later : List Operation),
          disturbing.Disturbs d outcome.selections → (∀ op ∈ later, op.isMoveOf d = false) →
          let after := (Operation.performAll p (disturbing :: later) calm.1.2).run calm.2
          (∀ changed reply, (.selectionChanged d changed, reply) ∈ after.1.1 →
            reply = .highlights .clear) ∧
          ∀ s, after.1.2.index.session? d = some s →
            s.returns = [] ∧ s.lastSelections = none ∧ s.highlights = [] := by
  intro moved outcome
  obtain ⟨o, s, hkept, hlast, hhighlights⟩ :=
    exists_session_of_navigateBy p hfound selections direction select
  refine ⟨s, by rw [Index.session?_eq, hkept]; rfl, ?_⟩
  intro quiet hquiet calm
  obtain ⟨hcalm, hechoes⟩ := Operation.performAll_induction p
    (fun n => n.index.kept d = some (o, s))
    (fun op hop n w hn => Operation.perform_of_quiet hop hn hlast w) hquiet moved.1.2 moved.2 hkept
  refine ⟨by rw [Index.session?_eq, hcalm]; rfl, fun echoed reply hmem => ?_, ?_⟩
  · rw [← hhighlights]
    exact hechoes _ reply hmem echoed rfl
  · intro disturbing later hdisturbing hlater after
    obtain ⟨hidle, hfirst⟩ := Operation.perform_of_disturbs (p := p) hdisturbing hcalm hlast calm.2
    obtain ⟨hend, hreplies⟩ := Operation.performAll_induction p
      (fun n => (n.index.kept d).IsIdle)
      (fun op hop n w hn => Operation.perform_of_idle hop hn w) hlater _ _ hidle
    refine ⟨fun changed reply hmem => ?_, fun t ht => ?_⟩
    · rcases List.mem_cons.mp hmem with heq | hmem
      · obtain ⟨hop, hreply⟩ := Prod.mk.inj heq
        exact hreply.trans (hfirst changed hop.symm)
      · exact hreplies _ reply hmem changed rfl
    · rw [Index.session?_eq] at ht
      obtain rfl := hend t ht
      exact ⟨rfl, rfl, rfl⟩

/-- A move to the parent, its echo, an edit, and then the echo again, when the outline was fetched
anew: it comes too late. -/
theorem echoes_until_disturbed_edit :
    let p := Provider.reluctant Outline.sample.roots
    let n := Navigator.new ⟨false⟩
    ((n.outlineBy p "shop").run 3).1.1.isEmpty = false ∧
      ∀ moved, moved = (n.navigateBy p "shop" [.caret ⟨7, 0⟩] .parent false).run 3 →
        let echo : Operation := .selectionChanged "shop" moved.1.1.selections
        let calm := (Operation.performAll p [echo, .outline "shop", .documentEdited "till"]
          moved.1.2).run moved.2
        let after := (Operation.performAll p [.documentEdited "shop", .outline "shop", echo]
          calm.1.2).run calm.2
        (∀ reply, (echo, reply) ∈ calm.1.1 →
            reply = .highlights (.reapply moved.1.1.highlights)) ∧
          ∀ reply, (echo, reply) ∈ after.1.1 → reply = .highlights .clear := by
  intro p n
  have hfound : ((n.outlineBy p "shop").run 3).1.1.isEmpty = false := by decide +kernel
  obtain ⟨session, -, h⟩ := echoes_until_disturbed p hfound [.caret ⟨7, 0⟩] .parent false
  refine ⟨hfound, fun moved hmoved => ?_⟩
  rw [← hmoved] at h
  intro echo
  dsimp only
  obtain ⟨-, hechoes, hlater⟩ := h [echo, .outline "shop", .documentEdited "till"] (by
    simp [Operation.IsQuiet, Operation.concerns, echo])
  obtain ⟨hcleared, -⟩ := hlater (.documentEdited "shop") [.outline "shop", echo]
    (.inr (by decide)) (by simp [Operation.isMoveOf, echo])
  exact ⟨hechoes _, hcleared _⟩

end OutlineNav
