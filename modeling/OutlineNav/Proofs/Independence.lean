import Mathlib.Logic.Function.Basic
import OutlineNav.Proofs.Operations

/-!
# Documents apart

A provider is fair if its answer to a fetch depends on the document and on how often the document
was fetched before. With a fair provider documents do not interfere: whatever is done with other
documents in between, the operations on one document have the same replies, and leave the same
outline and session, as if there were no others.

The argument compares two runs, one with all operations and one with those on the document alone.
They agree on the document (`Agree`), which is all that an operation on it depends on; an operation
on another document changes nothing that they agree on.
-/

namespace OutlineNav

variable {ω : Type}

/-- The provider answers by the document and the number of its fetches so far, which `asked` reads
off the world. -/
structure Provider.IsFair (p : Provider (StateM ω)) (asked : ω → Document → Nat)
    (answers : Document → Nat → Answer) : Prop where
  answer : ∀ d w, ((p.symbols d).run w).1 = answers d (asked w d)
  counted : ∀ d w, asked ((p.symbols d).run w).2 = Function.update (asked w) d (asked w d + 1)
  close : ∀ d w, asked ((p.close d).run w).2 = asked w

variable {p : Provider (StateM ω)} {asked : ω → Document → Nat} {answers : Document → Nat → Answer}

/-! ## Fetches of a document -/

/-- The document is fetched for the operation. -/
def Operation.fetches (d : Document) (kept : Kept) (op : Operation) : Bool :=
  op.reads && op.concerns d && kept.isNone

namespace Provider.IsFair

theorem asked_getOutlineBy (hp : p.IsFair asked answers) (ix : Index) (d' d : Document) (w : ω) :
    asked ((ix.getOutlineBy p d').run w).2 d =
      asked w d + if decide (d' = d) && (ix.kept d).isNone then 1 else 0 := by
  rw [Index.getOutlineBy_world]
  by_cases hd : d' = d
  · subst hd
    cases (ix.kept d').isNone with
    | true => rw [if_pos rfl, hp.counted, Function.update_self]; simp
    | false => simp
  · cases (ix.kept d').isNone with
    | true => rw [if_pos rfl, hp.counted, Function.update_of_ne (Ne.symm hd)]; simp [hd]
    | false => simp [hd]

theorem asked_perform (hp : p.IsFair asked answers) (op : Operation) (n : Navigator) (w : ω)
    (d : Document) :
    asked ((op.perform p n).run w).2 d =
      asked w d + if op.fetches d (n.index.kept d) then 1 else 0 := by
  cases op with
  | navigate d' => exact hp.asked_getOutlineBy n.index d' d w
  | outline d' => exact hp.asked_getOutlineBy n.index d' d w
  | documentClosed d' => exact congrFun (hp.close d' w) d
  | _ => rfl

end Provider.IsFair

/-! ## Two runs -/

/-- Two navigators in their worlds agree on a document. -/
structure Agree (asked : ω → Document → Nat) (d : Document) (n n' : Navigator) (w w' : ω) :
    Prop where
  kept : n.index.kept d = n'.index.kept d
  policy : n.policy = n'.policy
  asked : asked w d = asked w' d

namespace Agree

variable {op : Operation} {d : Document} {n n' : Navigator} {w w' : ω}

/-- An operation on another document is not noticed. -/
theorem perform_of_not_concerns (h : Agree asked d n n' w w') (hp : p.IsFair asked answers)
    (hop : op.concerns d = false) :
    Agree asked d ((op.perform p n).run w).1.2 n' ((op.perform p n).run w).2 w' where
  kept := (Operation.kept_perform_of_not_concerns p hop n w).trans h.kept
  policy := (Operation.policy_perform p op n w).trans h.policy
  asked := by
    have hfetches : op.fetches d (n.index.kept d) = false := by
      rw [Operation.fetches, hop, Bool.and_false, Bool.false_and]
    rw [hp.asked_perform, hfetches, if_neg Bool.false_ne_true, Nat.add_zero, h.asked]

/-- An operation on the document has the same reply in both runs, and they go on to agree. -/
theorem perform_of_concerns (h : Agree asked d n n' w w') (hp : p.IsFair asked answers)
    (hop : op.concerns d = true) :
    ((op.perform p n).run w).1.1 = ((op.perform p n').run w').1.1 ∧
      Agree asked d ((op.perform p n).run w).1.2 ((op.perform p n').run w').1.2
        ((op.perform p n).run w).2 ((op.perform p n').run w').2 := by
  have hanswer : ((p.symbols d).run w).1 = ((p.symbols d).run w').1 := by
    rw [hp.answer, hp.answer, h.asked]
  have hact := Operation.perform_of_concerns p hop n w
  rw [h.policy, hanswer, h.kept, ← Operation.perform_of_concerns p hop n' w'] at hact
  obtain ⟨hreply, hkept⟩ := Prod.mk.inj hact
  refine ⟨hreply, hkept, ?_, ?_⟩
  · rw [Operation.policy_perform, Operation.policy_perform, h.policy]
  · rw [hp.asked_perform, hp.asked_perform, h.asked, h.kept]

/-- The run of all operations, and the run of those on the document. -/
theorem performAll (hp : p.IsFair asked answers) (ops : List Operation) :
    ∀ {n n' : Navigator} {w w' : ω}, Agree asked d n n' w w' →
      let all := (Operation.performAll p ops n).run w
      let own := (Operation.performAll p (ops.filter (·.concerns d)) n').run w'
      all.1.1.filter (·.1.concerns d) = own.1.1 ∧ Agree asked d all.1.2 own.1.2 all.2 own.2 := by
  induction ops with
  | nil => exact fun h => ⟨rfl, h⟩
  | cons op ops ih =>
      intro n n' w w' h
      cases hop : op.concerns d with
      | false =>
          rw [List.filter_cons_of_neg (by simp [hop]), Operation.run_performAll_cons]
          obtain ⟨hreplies, hagree⟩ := ih (h.perform_of_not_concerns hp hop)
          exact ⟨by simp only [List.filter_cons, hop, if_neg Bool.false_ne_true, hreplies], hagree⟩
      | true =>
          rw [List.filter_cons_of_pos hop, Operation.run_performAll_cons,
            Operation.run_performAll_cons]
          obtain ⟨hreply, hnext⟩ := h.perform_of_concerns hp hop
          obtain ⟨hreplies, hagree⟩ := ih hnext
          exact ⟨by simp only [List.filter_cons, hop, if_true, hreply, hreplies], hagree⟩

end Agree

/-- **Documents do not interfere.** If the provider is fair, then in every run of operations on any
documents, the replies to the operations on one document, and the outline and the session that are
kept of it at the end, are those of the run of these operations alone. -/
theorem documents_apart (hp : p.IsFair asked answers) (ops : List Operation) (d : Document)
    (n : Navigator) (w : ω) :
    let all := (Operation.performAll p ops n).run w
    let own := (Operation.performAll p (ops.filter (·.concerns d)) n).run w
    all.1.1.filter (·.1.concerns d) = own.1.1 ∧
      all.1.2.index.kept d = own.1.2.index.kept d := by
  obtain ⟨hreplies, hagree⟩ := Agree.performAll hp ops ⟨rfl, rfl, rfl⟩
  exact ⟨hreplies, hagree.kept⟩

/-- A provider that counts the fetches of each document, and answers by the count. -/
def Provider.counting (answers : Document → Nat → Answer) :
    Provider (StateM (Document → Nat)) where
  symbols d := fun asked => (answers d (asked d), Function.update asked d (asked d + 1))
  folds _ := pure (.ok [])
  close _ := pure ()
  shutdown := pure ()

theorem Provider.isFair_counting (answers : Document → Nat → Answer) :
    (Provider.counting answers).IsFair id answers where
  answer _ _ := rfl
  counted _ _ := rfl
  close _ _ := rfl

/-- The first fetch of a document fails. -/
def lateAnswers : Document → Nat → Answer
  | _, 0 => .error (.timeout "busy")
  | _, _ => .ok (some Outline.sample.roots)

/-- A walk in one document, between readings, moves and an eviction of another one. -/
theorem documents_apart_sample :
    let ops : List Operation :=
      [.outline "a", .navigate "b" [.caret ⟨7, 0⟩] .parent false,
        .navigate "a" [.caret ⟨7, 0⟩] .parent false, .outline "b", .documentEdited "b",
        .activeEditorChanged none, .navigate "b" [.caret ⟨7, 0⟩] .next true,
        .navigate "a" [.caret ⟨0, 0⟩] .child false, .selectionChanged "a" [.caret ⟨0, 0⟩]]
    let run (ops : List Operation) :=
      (Operation.performAll (.counting lateAnswers) ops (.new ⟨false⟩)).run fun _ => 0
    (Provider.counting lateAnswers).IsFair id lateAnswers ∧
      (run ops).1.1.filter (·.1.concerns "a") = (run (ops.filter (·.concerns "a"))).1.1 ∧
      (ops.filter (·.concerns "a")).length = 4 := by
  intro ops run
  have hfair := Provider.isFair_counting lateAnswers
  exact ⟨hfair, (documents_apart hfair ops "a" (.new ⟨false⟩) fun _ => 0).1, rfl⟩

end OutlineNav
