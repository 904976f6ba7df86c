import Mathlib.Data.Set.Function
import OutlineNav.Proofs.Exchanges

/-!
# Calls about documents

A client is asked to give its server the text of a document, or to close a document. Calls follow
one another on one connection, and one that fails does not keep the next from being made.

To say what a server was told, all that is written is recorded (`Processes.recorded`): to which
process, which bytes, and whether the process has taken them. A call then does one of two things
(`perform_cases`). If the client sees nothing to tell, nothing happens at all. Else one notification
is written, the call fails if and only if the write does, and the client remembers the notification
as written or as not written.
-/

namespace OutlineNav

open Server (Processes)

variable {κ σ ω α : Type}

/-! ## Records of what is written -/

/-- Bytes that a process was given. -/
structure Delivery (κ : Type) where
  process : κ
  bytes : List UInt8
  /-- The process has taken them. -/
  taken : Bool
  deriving DecidableEq, Repr

/-- A world, and all that was written in it so far. -/
structure Recorded (κ ω : Type) where
  record : List (Delivery κ)
  world : ω

/-- Happens in the world, where nothing is written. -/
def Recorded.inside (act : StateM ω α) : StateM (Recorded κ ω) α := fun r =>
  let (a, world) := act r.world
  (a, { r with world })

/-- The same processes, with a record of what is written to them. -/
def Server.Processes.recorded (p : Processes (StateM ω) κ) :
    Processes (StateM (Recorded κ ω)) κ where
  ownNumber := Recorded.inside p.ownNumber
  installed command := Recorded.inside (p.installed command)
  spawn folder command arguments := Recorded.inside (p.spawn folder command arguments)
  write process bytes := do
    let result ← Recorded.inside (p.write process bytes)
    modify fun r => { r with record := r.record ++ [⟨process, bytes, result.isOk⟩] }
    return result
  read process patience := Recorded.inside (p.read process patience)
  closeInput process := Recorded.inside (p.closeInput process)
  isRunning process := Recorded.inside (p.isRunning process)
  stop process := Recorded.inside (p.stop process)

/-- Processes that never say anything. The world foretells of each write whether it succeeds, until
it has nothing more to foretell. -/
def Server.Processes.faltering : Processes (StateM (List Bool)) Unit where
  ownNumber := pure 0
  installed _ := pure true
  spawn _ _ _ := pure (.ok ())
  write _ _ := fun
    | false :: later => (.error .brokenPipe, later)
    | _ :: later => (.ok (), later)
    | [] => (.ok (), [])
  read _ patience := pure ⟨[], false, patience⟩
  closeInput _ := pure ()
  isRunning _ := pure true
  stop _ := pure ⟨0⟩

/-- A connection to a process that nothing was said to yet. -/
def Connection.joined (language : Language) (process : κ) : Connection κ :=
  { (Connection.new language : Connection κ) with process := some process }

theorem run_write_recorded (p : Processes (StateM ω) κ) (process : κ) (bytes : List UInt8)
    (r : Recorded κ ω) :
    (p.recorded.write process bytes).run r =
      (((p.write process bytes).run r.world).1,
        ⟨r.record ++ [⟨process, bytes, ((p.write process bytes).run r.world).1.isOk⟩],
          ((p.write process bytes).run r.world).2⟩) :=
  rfl

/-! ## One call -/

/-- What goes over the wire. -/
def DocumentEvent.wire (event : DocumentEvent) : List UInt8 :=
  (Rpc.Message.notification event.notification).wire

inductive DocumentCall where
  | sync (uri text : String)
  | close (uri : String)
  deriving DecidableEq, Repr

namespace DocumentCall

def perform (digest : String → UInt64) (p : Processes (StateM σ) κ) :
    DocumentCall → Exchange κ (StateM σ) Unit
  | sync uri text => Connection.syncBy digest p uri text
  | close uri => Connection.close p uri

/-- What a client sees to tell its server. -/
def event? (digest : String → UInt64) (c : Client) : DocumentCall → Option DocumentEvent
  | sync uri text => c.documents.event? digest c.language uri text
  | close uri => c.documents.closing? uri

/-- The texts that calls are about. -/
def texts (calls : List DocumentCall) : Set String := {text | ∃ uri, sync uri text ∈ calls}

theorem texts_tail (call : DocumentCall) (calls : List DocumentCall) :
    texts calls ⊆ texts (call :: calls) := by
  rintro text ⟨uri, hmem⟩
  exact ⟨uri, List.mem_cons_of_mem _ hmem⟩

theorem mem_texts_head {call : DocumentCall} (calls : List DocumentCall) {uri text : String}
    (h : call = sync uri text) : text ∈ texts (call :: calls) :=
  ⟨uri, h ▸ List.mem_cons_self⟩

end DocumentCall

namespace Connection

open Exchange

@[simp] theorem remember_documents (digest : String → UInt64) (event : DocumentEvent)
    (written : Bool) (c : Connection κ) :
    (c.remember digest event written).client.documents =
      c.client.documents.afterEvent digest written event :=
  rfl

section

variable {digest : String → UInt64} {p : Processes (StateM σ) κ} {call : DocumentCall}
  {c : Connection κ} {w : σ}

theorem exec_perform_of_none (h : call.event? digest c.client = none) :
    exec (call.perform digest p) c w = (.ok (), c, w) := by
  cases call with
  | sync uri text =>
    rw [DocumentCall.event?] at h
    rw [DocumentCall.perform, exec_syncBy, h]
  | close uri =>
    rw [DocumentCall.event?] at h
    rw [DocumentCall.perform, exec_close, h]

theorem exec_perform_of_some {event : DocumentEvent}
    (h : call.event? digest c.client = some event) :
    exec (call.perform digest p) c w = exec (tell digest p event) c w := by
  cases call with
  | sync uri text =>
    rw [DocumentCall.event?] at h
    rw [DocumentCall.perform, exec_syncBy, h]
  | close uri =>
    rw [DocumentCall.event?, OpenDocuments.closing?] at h
    rw [DocumentCall.perform, exec_close, OpenDocuments.closing?]
    split at h
    · -- A document is forgotten whatever the digest of its text was.
      next hopen =>
        cases h
        rw [if_pos hopen]
        simp only [exec_tell]
        rfl
    · cases h

end

/-- What a call does: nothing if there is nothing to tell; else one notification is written. -/
theorem perform_cases (digest : String → UInt64) (p : Processes (StateM ω) κ) (call : DocumentCall)
    (c : Connection κ) (r : Recorded κ ω) :
    (call.event? digest c.client = none ∧
      exec (call.perform digest p.recorded) c r = (.ok (), c, r)) ∨
    (∃ event, call.event? digest c.client = some event ∧ c.process = none ∧
      exec (call.perform digest p.recorded) c r =
        (.error .notConnected, c.remember digest event false, r)) ∨
    (∃ event process result world, call.event? digest c.client = some event ∧
      c.process = some process ∧
      exec (call.perform digest p.recorded) c r =
        (result, c.remember digest event result.isOk,
          ⟨r.record ++ [⟨process, event.wire, result.isOk⟩], world⟩)) := by
  cases hevent : call.event? digest c.client with
  | none => exact .inl ⟨rfl, exec_perform_of_none hevent⟩
  | some event =>
    rw [exec_perform_of_some hevent, exec_tell]
    cases hprocess : c.process with
    | none =>
      rw [exec_send_none hprocess]
      exact .inr (.inl ⟨event, rfl, rfl, rfl⟩)
    | some process =>
      have hwire : (Rpc.Message.notification event.notification).wire = event.wire := rfl
      rw [exec_send_some hprocess, run_write_recorded, hwire]
      refine .inr (.inr ⟨event, process, ?_⟩)
      rcases (p.write process event.wire).run r.world with ⟨e | _, world⟩
      · exact ⟨.error (.file e), world, rfl, rfl, rfl⟩
      · exact ⟨.ok (), world, rfl, rfl, rfl⟩

/-! ## Many calls -/

/-- Makes one call after another, whether they fail or not. -/
def performAll (digest : String → UInt64) (p : Processes (StateM σ) κ) :
    List DocumentCall → Connection κ → σ →
      List (Except ServiceError Unit) × Connection κ × σ
  | [], c, w => ([], c, w)
  | call :: calls, c, w =>
    let (result, c, w) := (call.perform digest p).exec c w
    let (results, c, w) := performAll digest p calls c w
    (result :: results, c, w)

/-- The first of many calls is made, and the others after it. -/
theorem performAll_cons {digest : String → UInt64} {p : Processes (StateM σ) κ}
    {call : DocumentCall} {calls : List DocumentCall} {c c' : Connection κ} {w w' : σ}
    {results : List (Except ServiceError Unit)}
    (h : performAll digest p (call :: calls) c w = (results, c', w')) :
    ∃ result rest c₁ w₁, results = result :: rest ∧
      exec (call.perform digest p) c w = (result, c₁, w₁) ∧
      performAll digest p calls c₁ w₁ = (rest, c', w') := by
  cases h
  exact ⟨_, _, _, _, rfl, rfl, rfl⟩

/-- What is on record stays there. -/
theorem record_prefix_perform {digest : String → UInt64} {p : Processes (StateM ω) κ}
    {call : DocumentCall} {c c' : Connection κ} {r r' : Recorded κ ω}
    {result : Except ServiceError Unit}
    (h : exec (call.perform digest p.recorded) c r = (result, c', r')) :
    r.record <+: r'.record := by
  rcases perform_cases digest p call c r with
    ⟨-, heq⟩ | ⟨_, -, -, heq⟩ | ⟨_, _, _, _, -, -, heq⟩
  · cases h.symm.trans heq
    exact List.prefix_rfl
  · cases h.symm.trans heq
    exact List.prefix_rfl
  · cases h.symm.trans heq
    exact List.prefix_append _ _

theorem record_prefix_performAll {digest : String → UInt64} {p : Processes (StateM ω) κ}
    {calls : List DocumentCall} {c c' : Connection κ} {r r' : Recorded κ ω}
    {results : List (Except ServiceError Unit)}
    (h : performAll digest p.recorded calls c r = (results, c', r')) :
    r.record <+: r'.record := by
  induction calls generalizing c r results with
  | nil =>
    cases h
    exact List.prefix_rfl
  | cons call calls ih =>
    obtain ⟨result, rest, c₁, r₁, -, hfirst, hrest⟩ := performAll_cons h
    exact (record_prefix_perform hfirst).trans (ih hrest)

end Connection

end OutlineNav
