import Mathlib.Logic.Function.Basic
import OutlineNav.Proofs.DocumentCalls

/-!
# Synchronization of documents

A server follows the notifications about documents that it gets, in the order in which they come
(`Told`). It takes a document as opened only if it is not open already, as changed or closed only if
it is open, and it counts the versions: the text that opens a document is version 1, the next is
version 2, and so on. Versions are words of 32 bits, and so are their counts.

A client whose notifications are all written never tells its server anything that the server would
not take, whatever calls it gets for whatever documents (`synchronized_run`). What it remembers of a
document is then the number of texts that the server was told since the document was opened and the
digest of the latest one (`Synchronized`). That is enough to tell whether a call asks for something
that the server does not have, as long as digests tell the texts apart
(`Synchronized.event?_eq_none_iff`).
-/

namespace OutlineNav

open Server (Processes)

variable {κ ω : Type} {digest : String → UInt64} {used : Set String}

/-! ## What a server was told -/

/-- The texts that a server was told of each document since it was opened, the latest first. A
document that is not open has none. -/
abbrev Told : Type := String → List String

namespace Told

def nothing : Told := fun _ => []

/-- The server takes a notification if it fits to what it was told. -/
def take? (told : Told) : DocumentEvent → Option Told
  | .opened uri _ version text =>
    if told uri = [] ∧ version = 1 then some (Function.update told uri [text]) else none
  | .changed uri version text =>
    if told uri ≠ [] ∧ version = .ofNat ((told uri).length + 1) then
      some (Function.update told uri (text :: told uri))
    else none
  | .closed uri => if told uri ≠ [] then some (Function.update told uri []) else none

end Told

/-- A notification that a process has taken. -/
def DocumentEvent.sentTo (process : κ) (event : DocumentEvent) : Delivery κ :=
  ⟨process, event.wire, true⟩

/-- The server was told what a call asks for. -/
def DocumentCall.Served (told : Told) : DocumentCall → Prop
  | sync uri text => (told uri).head? = some text
  | close uri => told uri = []

/-! ## What a client remembers -/

/-- A client remembers how many texts its server was told of each open document, and the digest of
the latest. -/
structure Synchronized (digest : String → UInt64) (used : Set String) (docs : OpenDocuments)
    (told : Told) : Prop where
  get? : ∀ uri, docs.get? uri = (told uri).head?.map fun text =>
    ⟨.ofNat (told uri).length, digest text⟩
  used : ∀ uri, ∀ text ∈ (told uri).head?, text ∈ used

namespace Synchronized

variable {docs : OpenDocuments} {told : Told}

theorem empty : Synchronized digest used .empty .nothing where
  get? _ := rfl
  used _ _ h := nomatch h

theorem contains_iff (h : Synchronized digest used docs told) (uri : String) :
    docs.contains uri = true ↔ told uri ≠ [] := by
  rw [Table.contains, h.get?]
  cases told uri <;> simp

/-- What a client remembers of one document changes together with what the server was told of it. -/
theorem update (h : Synchronized digest used docs told) {docs' : OpenDocuments} {uri : String}
    {texts : List String} (hother : ∀ other, other ≠ uri → docs'.get? other = docs.get? other)
    (hget : docs'.get? uri = texts.head?.map fun text => ⟨.ofNat texts.length, digest text⟩)
    (hused : ∀ text ∈ texts.head?, text ∈ used) :
    Synchronized digest used docs' (Function.update told uri texts) where
  get? other := by
    by_cases h' : other = uri
    · subst h'
      rw [Function.update_self, hget]
    · rw [Function.update_of_ne h', hother other h', h.get?]
  used other := by
    by_cases h' : other = uri
    · subst h'
      rwa [Function.update_self]
    · rw [Function.update_of_ne h']
      exact h.used other

/-- One more text. -/
theorem insert (h : Synchronized digest used docs told) (uri : String) {text : String}
    (htext : text ∈ used) :
    Synchronized digest used
      (docs.insert uri ⟨.ofNat ((told uri).length + 1), digest text⟩)
      (Function.update told uri (text :: told uri)) := by
  apply h.update
  · intro other hother
    exact Table.get?_insert_ne _ hother _
  · exact Table.get?_insert_self _ _ _
  · rintro _ ⟨⟩
    exact htext

theorem erase (h : Synchronized digest used docs told) (uri : String) :
    Synchronized digest used (docs.erase uri) (Function.update told uri []) := by
  apply h.update
  · intro other hother
    exact Table.get?_erase_ne _ hother
  · exact Table.get?_erase_self _ _
  · rintro _ ⟨⟩

/-! ## One call -/

/-- A client has nothing to tell if and only if the server has been told already. -/
theorem event?_eq_none_iff {c : Client} (h : Synchronized digest used c.documents told)
    (hdigest : Set.InjOn digest used) {call : DocumentCall}
    (hcall : ∀ uri text, call = .sync uri text → text ∈ used) :
    call.event? digest c = none ↔ call.Served told := by
  cases call with
  | sync uri text =>
    rw [DocumentCall.event?, OpenDocuments.event?, h.get?, DocumentCall.Served]
    cases hhead : (told uri).head? with
    | none => simp
    | some latest =>
      have hsame : digest latest = digest text ↔ latest = text :=
        hdigest.eq_iff (h.used uri latest hhead) (hcall uri text rfl)
      simp [hsame]
  | close uri =>
    rw [DocumentCall.event?, OpenDocuments.closing?, DocumentCall.Served]
    simp [h.contains_iff]

/-- The server takes what it is told, and is then told what the call asks for. -/
theorem take {c : Client} (h : Synchronized digest used c.documents told) {call : DocumentCall}
    (hcall : ∀ uri text, call = .sync uri text → text ∈ used) {event : DocumentEvent}
    (hevent : call.event? digest c = some event) :
    ∃ told', told.take? event = some told' ∧ call.Served told' ∧
      Synchronized digest used (c.documents.afterEvent digest true event) told' := by
  cases call with
  | sync uri text =>
    have hserved : DocumentCall.Served (Function.update told uri (text :: told uri))
        (.sync uri text) := by
      rw [DocumentCall.Served, Function.update_self]
      rfl
    have hnext := h.insert uri (hcall uri text rfl)
    rw [DocumentCall.event?, OpenDocuments.event?, h.get?] at hevent
    cases htold : told uri with
    | nil =>
      rw [htold] at hevent hserved hnext
      cases hevent
      exact ⟨_, if_pos ⟨htold, rfl⟩, hserved, hnext⟩
    | cons latest earlier =>
      rw [htold] at hevent
      simp only [List.head?_cons, Option.map_some] at hevent
      split at hevent
      · cases hevent
      · cases hevent
        -- The version remembered is the count, and its successor is the successor of the count.
        have hversion : (.ofNat (latest :: earlier).length + 1 : UInt32) =
            .ofNat ((told uri).length + 1) := by
          rw [htold, UInt32.ofNat_add]
          rfl
        refine ⟨_, if_pos ⟨by simp [htold], hversion⟩, hserved, ?_⟩
        rw [OpenDocuments.afterEvent, hversion]
        exact hnext
  | close uri =>
    rw [DocumentCall.event?, OpenDocuments.closing?] at hevent
    split at hevent
    · next hopen =>
      cases hevent
      refine ⟨_, if_pos ((h.contains_iff uri).mp hopen), ?_, h.erase uri⟩
      rw [DocumentCall.Served, Function.update_self]
    · cases hevent

/-- A call whose notification is written, if there is one, keeps the server informed. -/
theorem perform {p : Processes (StateM ω) κ} {process : κ} {c c' : Connection κ}
    {r r' : Recorded κ ω} {result : Except ServiceError Unit} {call : DocumentCall}
    (h : Synchronized digest used c.client.documents told) (hdigest : Set.InjOn digest used)
    (hcall : ∀ uri text, call = .sync uri text → text ∈ used) (hprocess : c.process = some process)
    (hexec : Exchange.exec (call.perform digest p.recorded) c r = (result, c', r'))
    (htaken : ∀ d ∈ r'.record, d.taken = true) :
    ∃ events told', r'.record = r.record ++ events.map (·.sentTo process) ∧
      events.foldlM Told.take? told = some told' ∧ call.Served told' ∧
      (call.Served told → events = []) ∧ result = .ok () ∧ c'.process = some process ∧
      Synchronized digest used c'.client.documents told' := by
  have hserved : call.event? digest c.client = none ↔ call.Served told :=
    h.event?_eq_none_iff hdigest hcall
  rcases Connection.perform_cases digest p call c r with
    ⟨hevent, heq⟩ | ⟨_, _, hnone, _⟩ | ⟨event, _, _, world, hevent, hprocess', heq⟩
  · cases hexec.symm.trans heq
    exact ⟨[], told, by simp, rfl, hserved.mp hevent, fun _ => rfl, rfl, hprocess, h⟩
  · cases hprocess.symm.trans hnone
  · cases hexec.symm.trans heq
    cases hprocess.symm.trans hprocess'
    -- The notification is on record, so it was written.
    have hwritten : result.isOk = true := htaken ⟨process, event.wire, result.isOk⟩ (by simp)
    obtain ⟨told', htake, hnow, hnext⟩ := h.take hcall hevent
    refine ⟨[event], told', ?_, ?_, hnow, ?_, ?_, hprocess, ?_⟩
    · rw [hwritten]
      rfl
    · simp [htake]
    · intro hbefore
      rw [hserved.mpr hbefore] at hevent
      cases hevent
    · cases result with
      | ok _ => rfl
      | error e => cases hwritten
    · rw [Connection.remember_documents, hwritten]
      exact hnext

end Synchronized

/-! ## Many calls -/

/-- Calls whose notifications are all written keep the server informed. -/
theorem Synchronized.performAll {p : Processes (StateM ω) κ} {process : κ}
    (hdigest : Set.InjOn digest used) {calls : List DocumentCall} {told : Told}
    {c c' : Connection κ} {r r' : Recorded κ ω} {results : List (Except ServiceError Unit)}
    (h : Synchronized digest used c.client.documents told)
    (htexts : DocumentCall.texts calls ⊆ used) (hprocess : c.process = some process)
    (hrun : Connection.performAll digest p.recorded calls c r = (results, c', r'))
    (htaken : ∀ d ∈ r'.record, d.taken = true) :
    ∃ (events : List DocumentEvent) (told' : Told),
      r'.record = r.record ++ events.map (·.sentTo process) ∧
      events.foldlM Told.take? told = some told' ∧ (∀ result ∈ results, result = .ok ()) ∧
      c'.process = some process ∧ Synchronized digest used c'.client.documents told' := by
  induction calls generalizing told c r results with
  | nil =>
    cases hrun
    exact ⟨[], told, by simp, rfl, by simp, hprocess, h⟩
  | cons call calls ih =>
    obtain ⟨result, rest, c₁, r₁, rfl, hfirst, hrest⟩ := Connection.performAll_cons hrun
    have htaken₁ : ∀ d ∈ r₁.record, d.taken = true := fun d hd =>
      htaken d ((Connection.record_prefix_performAll hrest).subset hd)
    have hcall : ∀ uri text, call = .sync uri text → text ∈ used := fun _ _ h =>
      htexts (DocumentCall.mem_texts_head calls h)
    obtain ⟨first, told₁, hrecord₁, hfold₁, -, -, hok, hprocess₁, h₁⟩ :=
      h.perform hdigest hcall hprocess hfirst htaken₁
    obtain ⟨events, told', hrecord, hfold, hoks, hprocess', h'⟩ :=
      ih h₁ ((DocumentCall.texts_tail call calls).trans htexts) hprocess₁ hrest
    refine ⟨first ++ events, told', ?_, ?_, ?_, hprocess', h'⟩
    · rw [hrecord, hrecord₁, List.map_append, List.append_assoc]
    · rw [List.foldlM_append, hfold₁]
      exact hfold
    · rw [List.forall_mem_cons]
      exact ⟨hok, hoks⟩

/-- **Documents stay synchronized.** From the first call on, the notifications that a client writes
are ones that the server takes: documents that are not open are opened as version 1, open ones are
changed with versions counted up or closed. After any number of calls, one more call writes nothing
if the server has been told already what the call asks for, and the server has been told in the
end. -/
theorem synchronized_run {p : Processes (StateM ω) κ} {process : κ} {c c₁ c₂ : Connection κ} {w : ω}
    {r₁ r₂ : Recorded κ ω} {calls : List DocumentCall} {call : DocumentCall}
    {results : List (Except ServiceError Unit)} {result : Except ServiceError Unit}
    (hprocess : c.process = some process) (hfresh : c.client.documents = .empty)
    (hrun : Connection.performAll digest p.recorded calls c ⟨[], w⟩ = (results, c₁, r₁))
    (hcall : Exchange.exec (call.perform digest p.recorded) c₁ r₁ = (result, c₂, r₂))
    (htaken : ∀ d ∈ r₂.record, d.taken = true)
    (hdigest : Set.InjOn digest (DocumentCall.texts (call :: calls))) :
    ∃ (before now : List DocumentEvent) (told told' : Told),
      r₁.record = before.map (·.sentTo process) ∧
      before.foldlM Told.take? .nothing = some told ∧
      r₂.record = r₁.record ++ now.map (·.sentTo process) ∧
      now.foldlM Told.take? told = some told' ∧
      (call.Served told → now = []) ∧ call.Served told' ∧
      ∀ outcome ∈ result :: results, outcome = .ok () := by
  have htaken₁ : ∀ d ∈ r₁.record, d.taken = true := fun d hd =>
    htaken d ((Connection.record_prefix_perform hcall).subset hd)
  have hfirst : Synchronized digest (DocumentCall.texts (call :: calls)) c.client.documents
      .nothing := hfresh ▸ .empty
  obtain ⟨before, told, hrecord, hfold, hoks, hprocess₁, h⟩ :=
    hfirst.performAll hdigest (DocumentCall.texts_tail call calls) hprocess hrun htaken₁
  obtain ⟨now, told', hrecord', hfold', hserved, hquiet, hok, -, -⟩ :=
    h.perform hdigest (fun _ _ => DocumentCall.mem_texts_head calls) hprocess₁ hcall htaken
  refine ⟨before, now, told, told', hrecord, hfold, hrecord', hfold', hquiet, hserved, ?_⟩
  rw [List.forall_mem_cons]
  exact ⟨hok, hoks⟩

/-- A document whose text comes back and that is closed, beside another one. -/
def DocumentCall.comingBack : List DocumentCall :=
  [.sync "a.rs" "A", .sync "a.rs" "B", .sync "b.rs" "A", .sync "a.rs" "A", .close "a.rs"]

/-- All of them are made, and all that is written is taken. -/
def comingBackRun :
    List (Except ServiceError Unit) × Connection Unit × Recorded Unit (List Bool) :=
  Connection.performAll Text.digest Processes.faltering.recorded DocumentCall.comingBack
    (.joined .rust ()) ⟨[], []⟩

/-- Then the first document is opened again. -/
def comingBackAgain : Except ServiceError Unit × Connection Unit × Recorded Unit (List Bool) :=
  Exchange.exec ((DocumentCall.sync "a.rs" "A").perform Text.digest Processes.faltering.recorded)
    comingBackRun.2.1 comingBackRun.2.2

theorem synchronized_run_again :
    comingBackAgain.2.2.record.length = 6 ∧
      ∃ (before now : List DocumentEvent) (told told₁ : Told),
        comingBackRun.2.2.record = before.map (·.sentTo ()) ∧
        before.foldlM Told.take? .nothing = some told ∧
        comingBackAgain.2.2.record = comingBackRun.2.2.record ++ now.map (·.sentTo ()) ∧
        now.foldlM Told.take? told = some told₁ ∧ (told₁ "a.rs").head? = some "A" := by
  refine ⟨by decide +kernel, ?_⟩
  have hrun : Connection.performAll Text.digest Processes.faltering.recorded
      DocumentCall.comingBack (.joined .rust ()) ⟨[], []⟩ =
        (comingBackRun.1, comingBackRun.2.1, comingBackRun.2.2) := rfl
  have hcall : Exchange.exec
      ((DocumentCall.sync "a.rs" "A").perform Text.digest Processes.faltering.recorded)
        comingBackRun.2.1 comingBackRun.2.2 =
        (comingBackAgain.1, comingBackAgain.2.1, comingBackAgain.2.2) := rfl
  have htaken : ∀ d ∈ comingBackAgain.2.2.record, d.taken = true := by decide +kernel
  have hdigest : Set.InjOn Text.digest
      (DocumentCall.texts (.sync "a.rs" "A" :: DocumentCall.comingBack)) := by
    have htexts : ∀ text ∈ DocumentCall.texts (.sync "a.rs" "A" :: DocumentCall.comingBack),
        text = "A" ∨ text = "B" := by
      rintro text ⟨uri, hmem⟩
      simp [DocumentCall.comingBack] at hmem
      tauto
    have hne : Text.digest "A" ≠ Text.digest "B" := by decide +kernel
    intro text htext text' htext' heq
    rcases htexts text htext with rfl | rfl <;> rcases htexts text' htext' with rfl | rfl
    · rfl
    · exact absurd heq hne
    · exact absurd heq.symm hne
    · rfl
  obtain ⟨before, now, told, told₁, hrecord, hfold, hrecord', hfold', -, hserved, -⟩ :=
    synchronized_run rfl rfl hrun hcall htaken hdigest
  exact ⟨before, now, told, told₁, hrecord, hfold, hrecord', hfold', hserved⟩

end OutlineNav
