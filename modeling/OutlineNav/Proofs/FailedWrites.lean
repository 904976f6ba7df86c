import OutlineNav.Proofs.DocumentCalls

/-!
# Notifications that cannot be written

The process of a server may stop taking what is written to it, or be gone. A client that is asked to
give the server a text then reports the failure. What it remembers afterwards depends on what it
could not write.

A document that could not be opened is remembered as not open. A change is remembered as if the
server had been told, although the server was not: the document has the next version and the digest
of the new text, and the same text is not sent again (`failed_sync`). So a client that reports that
the server has a text may be wrong. It is wrong in no other way: if the text is not the last one
that was sent, then the last attempt for the document was a change to that text, and failed
(`exists_log_of_sync`).

Attempts are listed with the latest in front. `Traced` is what they say about the documents that a
client remembers, and no call breaks it (`Traced.perform`).
-/

namespace OutlineNav

open Server (Processes)

variable {κ ω : Type} {digest : String → UInt64} {used : Set String}

/-! ## Attempts -/

namespace DocumentEvent

def uri : DocumentEvent → String
  | opened uri _ _ _ => uri
  | changed uri _ _ => uri
  | closed uri => uri

def text? : DocumentEvent → Option String
  | opened _ _ _ text => some text
  | changed _ _ text => some text
  | closed _ => none

end DocumentEvent

/-- A server is told the text of a document by a notification about the document that has the
text. -/
theorem OpenDocuments.about_of_event? {docs : OpenDocuments} {language : Language}
    {uri text : String} {event : DocumentEvent}
    (h : docs.event? digest language uri text = some event) :
    event.uri = uri ∧ event.text? = some text := by
  rw [OpenDocuments.event?] at h
  split at h
  · cases h
    exact ⟨rfl, rfl⟩
  · split at h <;> cases h
    exact ⟨rfl, rfl⟩

/-- A text whose digest is remembered is not sent. -/
theorem OpenDocuments.event?_of_get? {docs : OpenDocuments} (language : Language)
    {uri text : String} {version : UInt32} (h : docs.get? uri = some ⟨version, digest text⟩) :
    docs.event? digest language uri text = none := by
  rw [OpenDocuments.event?, h]
  exact if_pos rfl

/-- A notification that was to be written. -/
structure Attempt where
  event : DocumentEvent
  written : Bool
  deriving DecidableEq, Repr

namespace Attempt

/-- What is on record of an attempt, if there was a process to write to. -/
def deliveries (process : Option κ) (a : Attempt) : List (Delivery κ) :=
  process.toList.map fun process => ⟨process, a.event.wire, a.written⟩

/-- The last text of a document that was sent. -/
def lastSent (uri : String) : List Attempt → Option String
  | [] => none
  | a :: earlier =>
    (if a.written ∧ a.event.uri = uri then a.event.text? else none).or (lastSent uri earlier)

/-- The last attempt that was about a document. -/
def last (uri : String) (log : List Attempt) : Option Attempt := log.find? (·.event.uri = uri)

/-- A text is the last one that was sent, or the last attempt was to change to it and failed. -/
def Supposed (log : List Attempt) (uri text : String) : Prop :=
  lastSent uri log = some text ∨
    ∃ version, last uri log = some ⟨.changed uri version text, false⟩

variable {uri text : String}

theorem supposed_of_written {a : Attempt} {log : List Attempt} (hwritten : a.written = true)
    (htext : a.event.text? = some text) : Supposed (a :: log) a.event.uri text := by
  left
  simp [lastSent, hwritten, htext]

theorem supposed_of_failed (version : UInt32) (log : List Attempt) :
    Supposed (⟨.changed uri version text, false⟩ :: log) uri text := by
  right
  exact ⟨version, by simp [last, DocumentEvent.uri]⟩

/-- An attempt says nothing about other documents. -/
theorem supposed_cons {a : Attempt} {log : List Attempt} (h : a.event.uri ≠ uri) :
    Supposed (a :: log) uri text ↔ Supposed log uri text := by
  simp [Supposed, lastSent, last, h]

end Attempt

/-! ## What a client remembers -/

/-- Of every open document a client remembers the digest of a text that it supposes the server to
have. -/
def Traced (digest : String → UInt64) (used : Set String) (docs : OpenDocuments)
    (log : List Attempt) : Prop :=
  ∀ uri d, docs.get? uri = some d →
    ∃ text ∈ used, d.digest = digest text ∧ Attempt.Supposed log uri text

namespace Traced

open Attempt

variable {docs docs' : OpenDocuments} {log : List Attempt}

theorem empty : Traced digest used .empty log := nofun

/-- An attempt for one document leaves the others as they are. -/
theorem cons (h : Traced digest used docs log) {a : Attempt}
    (hother : ∀ other, other ≠ a.event.uri → docs'.get? other = docs.get? other)
    (hself : ∀ d, docs'.get? a.event.uri = some d →
      ∃ text ∈ used, d.digest = digest text ∧ Supposed (a :: log) a.event.uri text) :
    Traced digest used docs' (a :: log) := by
  intro uri d hd
  by_cases huri : uri = a.event.uri
  · subst huri
    exact hself d hd
  · rw [hother uri huri] at hd
    obtain ⟨text, hused, hdigest, hsupposed⟩ := h uri d hd
    exact ⟨text, hused, hdigest, (supposed_cons (Ne.symm huri)).mpr hsupposed⟩

/-- Whether its notification is written or not. -/
theorem afterEvent {c : Client} (h : Traced digest used c.documents log) {call : DocumentCall}
    (hcall : ∀ uri text, call = .sync uri text → text ∈ used) {event : DocumentEvent}
    (hevent : call.event? digest c = some event) (written : Bool) :
    Traced digest used (c.documents.afterEvent digest written event) (⟨event, written⟩ :: log) := by
  cases call with
  | sync uri text =>
    have htext := hcall uri text rfl
    rw [DocumentCall.event?, OpenDocuments.event?] at hevent
    split at hevent
    · next hclosed =>
      cases hevent
      cases written with
      | false =>
        refine h.cons (fun _ _ => rfl) fun d hd => ?_
        cases hclosed.symm.trans hd
      | true =>
        refine h.cons (fun _ hother => Table.get?_insert_ne _ hother _) fun d hd => ?_
        cases (Table.get?_insert_self _ _ _).symm.trans hd
        exact ⟨text, htext, rfl, supposed_of_written rfl rfl⟩
    · next d _ =>
      split at hevent
      · cases hevent
      · cases hevent
        refine h.cons (fun _ hother => Table.get?_insert_ne _ hother _) fun d' hd' => ?_
        cases (Table.get?_insert_self _ _ _).symm.trans hd'
        refine ⟨text, htext, rfl, ?_⟩
        cases written with
        | false => exact supposed_of_failed _ log
        | true => exact supposed_of_written rfl rfl
  | close uri =>
    rw [DocumentCall.event?, OpenDocuments.closing?] at hevent
    split at hevent
    · cases hevent
      refine h.cons (fun _ hother => Table.get?_erase_ne _ hother) fun d hd => ?_
      cases (Table.get?_erase_self _ _).symm.trans hd
    · cases hevent

/-- A text that need not be sent is one that the server is supposed to have. -/
theorem supposed_of_event?_eq_none {c : Client} (h : Traced digest used c.documents log)
    (hdigest : Set.InjOn digest used) {uri text : String} (htext : text ∈ used)
    (hevent : c.documents.event? digest c.language uri text = none) : Supposed log uri text := by
  rw [OpenDocuments.event?] at hevent
  split at hevent
  · cases hevent
  · next d hd =>
    split at hevent
    · next hsame =>
      obtain ⟨latest, hlatest, hd', hsupposed⟩ := h uri d hd
      have : latest = text := hdigest hlatest htext (hd'.symm.trans hsame)
      exact this ▸ hsupposed
    · cases hevent

/-- A call is traced, whether it fails or not. -/
theorem perform {p : Processes (StateM ω) κ} {c c' : Connection κ} {r r' : Recorded κ ω}
    {result : Except ServiceError Unit} {call : DocumentCall}
    (h : Traced digest used c.client.documents log) (hdigest : Set.InjOn digest used)
    (hcall : ∀ uri text, call = .sync uri text → text ∈ used)
    (hexec : Exchange.exec (call.perform digest p.recorded) c r = (result, c', r')) :
    ∃ attempts : List Attempt,
      r'.record = r.record ++ attempts.reverse.flatMap (·.deliveries c.process) ∧
      (∀ a ∈ attempts, a.written = true → c.process.isSome = true) ∧ c'.process = c.process ∧
      Traced digest used c'.client.documents (attempts ++ log) ∧
      ∀ uri text, call = .sync uri text → result = .ok () →
        Supposed (attempts ++ log) uri text := by
  rcases Connection.perform_cases digest p call c r with
    ⟨hevent, heq⟩ | ⟨event, hevent, hprocess, heq⟩ |
      ⟨event, _, _, _, hevent, hprocess, heq⟩
  · cases hexec.symm.trans heq
    refine ⟨[], by simp, nofun, rfl, h, ?_⟩
    rintro uri text rfl -
    exact h.supposed_of_event?_eq_none hdigest (hcall uri text rfl) hevent
  · cases hexec.symm.trans heq
    refine ⟨[⟨event, false⟩], by simp [deliveries, hprocess], by simp, rfl,
      h.afterEvent hcall hevent false, ?_⟩
    rintro _ _ - ⟨⟩
  · cases hexec.symm.trans heq
    refine ⟨[⟨event, result.isOk⟩], by simp [deliveries, hprocess], by simp [hprocess], rfl,
      h.afterEvent hcall hevent result.isOk, ?_⟩
    rintro uri text rfl rfl
    obtain ⟨huri, htext⟩ := OpenDocuments.about_of_event? hevent
    exact huri ▸ supposed_of_written rfl htext

/-- So are many calls. -/
theorem performAll {p : Processes (StateM ω) κ} (hdigest : Set.InjOn digest used)
    {calls : List DocumentCall} {c c' : Connection κ} {r r' : Recorded κ ω}
    {results : List (Except ServiceError Unit)}
    (h : Traced digest used c.client.documents log) (htexts : DocumentCall.texts calls ⊆ used)
    (hrun : Connection.performAll digest p.recorded calls c r = (results, c', r')) :
    ∃ attempts : List Attempt,
      r'.record = r.record ++ attempts.reverse.flatMap (·.deliveries c.process) ∧
      (∀ a ∈ attempts, a.written = true → c.process.isSome = true) ∧ c'.process = c.process ∧
      Traced digest used c'.client.documents (attempts ++ log) := by
  induction calls generalizing c r log results with
  | nil =>
    cases hrun
    exact ⟨[], by simp, nofun, rfl, h⟩
  | cons call calls ih =>
    obtain ⟨result, rest, c₁, r₁, rfl, hfirst, hrest⟩ := Connection.performAll_cons hrun
    have hcall : ∀ uri text, call = .sync uri text → text ∈ used := fun _ _ h =>
      htexts (DocumentCall.mem_texts_head calls h)
    obtain ⟨first, hrecord₁, hwritten₁, hprocess₁, h₁, -⟩ := h.perform hdigest hcall hfirst
    obtain ⟨later, hrecord, hwritten, hprocess, h'⟩ :=
      ih h₁ ((DocumentCall.texts_tail call calls).trans htexts) hrest
    rw [hprocess₁] at hrecord hwritten hprocess
    refine ⟨later ++ first, ?_, ?_, hprocess, by rwa [List.append_assoc]⟩
    · rw [hrecord, hrecord₁, List.reverse_append, List.flatMap_append, List.append_assoc]
    · intro a ha
      rcases List.mem_append.mp ha with ha | ha
      · exact hwritten a ha
      · exact hwritten₁ a ha

end Traced

/-! ## Asking for a text when writing fails -/

open Attempt

/-- A client that could not tell its server the text of a document remembers nothing of a document
that was not open. An open document is changed for the client, and the client does not try again. -/
theorem failed_sync {p : Processes (StateM ω) κ} {c c' : Connection κ} {r r' : Recorded κ ω}
    {uri text : String} {e : ServiceError}
    (hsync : Exchange.exec (Connection.syncBy digest p.recorded uri text) c r =
      (.error e, c', r')) :
    (∀ other, other ≠ uri →
      c'.client.documents.get? other = c.client.documents.get? other) ∧
    (c.client.documents.get? uri = none → c'.client.documents.get? uri = none) ∧
    ∀ d, c.client.documents.get? uri = some d → d.digest ≠ digest text ∧
      c'.client.documents.get? uri = some ⟨d.version + 1, digest text⟩ ∧
      Exchange.exec (Connection.syncBy digest p.recorded uri text) c' r' = (.ok (), c', r') := by
  obtain ⟨event, hevent, hc'⟩ : ∃ event,
      c.client.documents.event? digest c.client.language uri text = some event ∧
        c' = c.remember digest event false := by
    rcases Connection.perform_cases digest p (.sync uri text) c r with
      ⟨-, heq⟩ | ⟨event, hevent, -, heq⟩ | ⟨event, _, _, _, hevent, -, heq⟩
    · cases hsync.symm.trans heq
    · cases hsync.symm.trans heq
      exact ⟨event, hevent, rfl⟩
    · cases hsync.symm.trans heq
      exact ⟨event, hevent, rfl⟩
  subst hc'
  cases hopen : c.client.documents.get? uri with
  | none =>
    simp only [OpenDocuments.event?, hopen, Option.some.injEq] at hevent
    subst hevent
    exact ⟨fun _ _ => rfl, fun _ => hopen, nofun⟩
  | some d =>
    simp only [OpenDocuments.event?, hopen] at hevent
    split at hevent
    · cases hevent
    · next hdiffers =>
      cases hevent
      refine ⟨fun _ hother => Table.get?_insert_ne _ hother _, nofun, ?_⟩
      rintro _ ⟨⟩
      have hnow : (c.remember digest (.changed uri (d.version + 1) text)
          false).client.documents.get? uri = some ⟨d.version + 1, digest text⟩ :=
        Table.get?_insert_self _ _ _
      refine ⟨hdiffers, hnow, ?_⟩
      change Exchange.exec ((DocumentCall.sync uri text).perform digest p.recorded) _ _ = _
      exact Connection.exec_perform_of_none (OpenDocuments.event?_of_get? _ hnow)

/-- A client never supposes more of its server than what it last tried to tell it. -/
theorem exists_log_of_sync {p : Processes (StateM ω) κ} {c c₁ c₂ : Connection κ} {w : ω}
    {r₁ r₂ : Recorded κ ω} {calls : List DocumentCall} {uri text : String}
    {results : List (Except ServiceError Unit)} (hfresh : c.client.documents = .empty)
    (hrun : Connection.performAll digest p.recorded calls c ⟨[], w⟩ = (results, c₁, r₁))
    (hsync : Exchange.exec (Connection.syncBy digest p.recorded uri text) c₁ r₁ =
      (.ok (), c₂, r₂))
    (hdigest : Set.InjOn digest (DocumentCall.texts (.sync uri text :: calls))) :
    ∃ log : List Attempt, r₂.record = log.reverse.flatMap (·.deliveries c.process) ∧
      (∀ a ∈ log, a.written = true → c.process.isSome = true) ∧ Supposed log uri text := by
  have hfirst : Traced digest (DocumentCall.texts (.sync uri text :: calls)) c.client.documents
      [] := hfresh ▸ .empty
  obtain ⟨before, hrecord₁, hwritten₁, hprocess₁, h₁⟩ :=
    hfirst.performAll hdigest (DocumentCall.texts_tail _ calls) hrun
  obtain ⟨now, hrecord, hwritten, -, -, hsupposed⟩ :=
    h₁.perform hdigest (fun _ _ => DocumentCall.mem_texts_head calls) hsync
  rw [hprocess₁] at hrecord hwritten
  rw [List.append_nil] at hsupposed
  refine ⟨now ++ before, ?_, ?_, hsupposed uri text rfl rfl⟩
  · rw [hrecord, hrecord₁, List.reverse_append, List.flatMap_append]
    rfl
  · intro a ha
    rcases List.mem_append.mp ha with ha | ha
    · exact hwritten a ha
    · exact hwritten₁ a ha

/-- **What becomes of a text that could not be sent.** In any state of the client, a failure leaves
the documents as they are if the one that was asked for is not open. If it is open, the client takes
the server for told and asking again succeeds with nothing sent. From a fresh client on, whichever
notifications fail, a client that reports success is wrong only about a text that it tried in vain
to send last. -/
theorem failed_sync_run (digest : String → UInt64) (p : Processes (StateM ω) κ) :
    (∀ (c c' : Connection κ) (r r' : Recorded κ ω) (uri text : String) (e : ServiceError),
      Exchange.exec (Connection.syncBy digest p.recorded uri text) c r = (.error e, c', r') →
      (∀ other, other ≠ uri →
        c'.client.documents.get? other = c.client.documents.get? other) ∧
      (c.client.documents.get? uri = none → c'.client.documents.get? uri = none) ∧
      ∀ d, c.client.documents.get? uri = some d → d.digest ≠ digest text ∧
        c'.client.documents.get? uri = some ⟨d.version + 1, digest text⟩ ∧
        Exchange.exec (Connection.syncBy digest p.recorded uri text) c' r' = (.ok (), c', r')) ∧
    ∀ (c c₁ c₂ : Connection κ) (w : ω) (r₁ r₂ : Recorded κ ω) (calls : List DocumentCall)
      (uri text : String) (results : List (Except ServiceError Unit)),
      c.client.documents = .empty →
      Connection.performAll digest p.recorded calls c ⟨[], w⟩ = (results, c₁, r₁) →
      Exchange.exec (Connection.syncBy digest p.recorded uri text) c₁ r₁ = (.ok (), c₂, r₂) →
      Set.InjOn digest (DocumentCall.texts (.sync uri text :: calls)) →
      ∃ log : List Attempt, r₂.record = log.reverse.flatMap (·.deliveries c.process) ∧
        (∀ a ∈ log, a.written = true → c.process.isSome = true) ∧ Supposed log uri text :=
  ⟨fun _ _ _ _ _ _ _ => failed_sync,
    fun _ _ _ _ _ _ _ _ _ _ => exists_log_of_sync⟩

namespace Faltering

/-- Of two notifications only the first is written. -/
def sync (text : String) (c : Connection Unit) (r : Recorded Unit (List Bool)) :
    Except ServiceError Unit × Connection Unit × Recorded Unit (List Bool) :=
  Exchange.exec (Connection.syncBy Text.digest Processes.faltering.recorded "a.rs" text) c r

def opened : Except ServiceError Unit × Connection Unit × Recorded Unit (List Bool) :=
  sync "A" (.joined .rust ()) ⟨[], [true, false]⟩

def changed : Except ServiceError Unit × Connection Unit × Recorded Unit (List Bool) :=
  sync "B" opened.2.1 opened.2.2

def again : Except ServiceError Unit × Connection Unit × Recorded Unit (List Bool) :=
  sync "B" changed.2.1 changed.2.2

end Faltering

open Faltering in
theorem failed_sync_run_faltering :
    again = (.ok (), changed.2.1, changed.2.2) ∧
      ∃ log : List Attempt, again.2.2.record = log.reverse.flatMap (·.deliveries (some ())) ∧
        Supposed log "a.rs" "B" := by
  obtain ⟨hfailed, hrun⟩ := failed_sync_run Text.digest Processes.faltering
  have hopened : opened.2.1.client.documents.get? "a.rs" = some ⟨1, Text.digest "A"⟩ := by
    decide +kernel
  have hchanged : changed = (.error (.file .brokenPipe), changed.2.1, changed.2.2) :=
    Prod.ext (by decide +kernel) rfl
  have hagain : again = (.ok (), changed.2.1, changed.2.2) :=
    ((hfailed opened.2.1 changed.2.1 opened.2.2 changed.2.2 "a.rs" "B" _ hchanged).2.2 _
      hopened).2.2
  refine ⟨hagain, ?_⟩
  have hdigest : Set.InjOn Text.digest
      (DocumentCall.texts [.sync "a.rs" "B", .sync "a.rs" "A", .sync "a.rs" "B"]) := by
    have hne : Text.digest "A" ≠ Text.digest "B" := by decide +kernel
    rintro text ⟨uri, htext⟩ text' ⟨uri', htext'⟩ heq
    simp at htext htext'
    grind
  obtain ⟨log, hrecord, -, hsupposed⟩ :=
    hrun (.joined .rust ()) changed.2.1 again.2.1 [true, false] changed.2.2 again.2.2
      [.sync "a.rs" "A", .sync "a.rs" "B"] "a.rs" "B" [opened.1, changed.1] rfl rfl
      (Prod.ext (congrArg Prod.fst hagain) rfl) hdigest
  exact ⟨log, hrecord, hsupposed⟩

open Faltering in
/-- The server has been sent one text only, and not the one that the client says it has. -/
theorem failed_change_swallowed :
    changed.1 = .error (.file .brokenPipe) ∧
      opened.2.1.client.documents.get? "a.rs" = some ⟨1, Text.digest "A"⟩ ∧
      changed.2.1.client.documents.get? "a.rs" = some ⟨2, Text.digest "B"⟩ ∧ again.1 = .ok () ∧
      again.2.2.record =
        [⟨(), (DocumentEvent.opened "a.rs" .rust 1 "A").wire, true⟩,
          ⟨(), (DocumentEvent.changed "a.rs" 2 "B").wire, false⟩] := by
  refine ⟨?_, ?_, ?_, ?_, rfl⟩ <;> decide +kernel

end OutlineNav
