import OutlineNav.Client.Connection

/-!
# Running exchanges

An exchange runs on a connection and in a world that the processes of servers belong to. It ends
with a result or a failure, and what it has done to the connection and to the world stays done
either way. `Exchange.exec` gives all three.

The lemmas on sequences and on handled failures take an exchange apart. The operations of a client
are then one equation each: what is written and what becomes of it (`exec_send_some`), what is heard
while an answer is waited for (`exec_await_of_read`), and what is remembered of a notification that
could or could not be written (`exec_tell`).
-/

namespace OutlineNav

open Rpc (Response)
open Server (Arrival Processes)

variable {κ σ α β : Type}

/-- The result of an exchange, the connection after it, and the world. -/
def Exchange.exec (act : Exchange κ (StateM σ) α) (c : Connection κ) (w : σ) :
    Except ServiceError α × Connection κ × σ :=
  let ((result, c), w) := (act.run.run c).run w
  (result, c, w)

namespace Exchange

variable {c : Connection κ} {w : σ}

/-- What happens in the world alone. -/
theorem exec_liftM (act : StateM σ α) :
    exec (liftM act : Exchange κ (StateM σ) α) c w = (.ok (act.run w).1, c, (act.run w).2) := rfl

theorem exec_bind (act : Exchange κ (StateM σ) α) (next : α → Exchange κ (StateM σ) β) :
    exec (act >>= next) c w =
      match exec act c w with
      | (.ok a, c, w) => exec (next a) c w
      | (.error e, c, w) => (.error e, c, w) := by
  unfold exec ExceptT.run StateT.run
  simp only [bind, ExceptT.bind, ExceptT.mk, StateT.bind, ExceptT.bindCont]
  rcases act c w with ⟨⟨_ | _, _⟩, _⟩ <;> rfl

/-- What looks at the connection first. -/
theorem exec_get_bind (next : Connection κ → Exchange κ (StateM σ) β) :
    exec (get >>= next) c w = exec (next c) c w := rfl

theorem exec_tryCatch (act : Exchange κ (StateM σ) α)
    (handle : ServiceError → Exchange κ (StateM σ) α) :
    exec (tryCatch act handle) c w =
      match exec act c w with
      | (.ok a, c, w) => (.ok a, c, w)
      | (.error e, c, w) => exec (handle e) c w := by
  unfold exec ExceptT.run StateT.run
  simp only [tryCatch, tryCatchThe, MonadExceptOf.tryCatch, ExceptT.tryCatch, ExceptT.mk, bind,
    StateT.bind]
  rcases act c w with ⟨⟨_ | _, _⟩, _⟩ <;> rfl

end Exchange

namespace Connection

open Exchange

variable {p : Processes (StateM σ) κ} {c : Connection κ} {w : σ}

/-! ## Writing -/

theorem exec_send_none (h : c.process = none) (message : Rpc.Message) :
    exec (send p message) c w = (.error .notConnected, c, w) := by
  rw [send, exec_get_bind, h]
  rfl

/-- A message is written once, and all that may happen to the connection happens in the world. -/
theorem exec_send_some {process : κ} (h : c.process = some process) (message : Rpc.Message) :
    exec (send p message) c w =
      (((p.write process message.wire).run w).1.mapError .file, c,
        ((p.write process message.wire).run w).2) := by
  rw [send, exec_get_bind, h]
  change exec (liftM (p.write process message.wire) >>= _) c w = _
  rw [exec_bind, exec_liftM]
  cases ((p.write process message.wire).run w).1 <;> rfl

/-! ## Requests -/

theorem exec_attempt (act : Exchange κ (StateM σ) Unit) :
    exec (attempt act) c w = (.ok (), (exec act c w).2) := by
  rw [attempt, exec_tryCatch]
  rcases exec act c w with ⟨_ | _, _, _⟩ <;> rfl

theorem exec_issue (h : c.client.terminated = false) (method : String) (params : Option Json) :
    exec (issue p method params) c w =
      let id := c.client.pending.nextId
      match exec (send p (.request (.new id method params))) (c.onClient (·.issue.2)) w with
      | (.ok _, c, w) => (.ok id, c, w)
      | (.error e, c, w) => (.error e, c.onClient (·.abandon id), w) := by
  rw [issue, exec_get_bind, h, if_neg Bool.false_ne_true]
  change exec (tryCatch (send p (.request (.new c.client.pending.nextId method params))) _ >>= _)
    (c.onClient (·.issue.2)) w = _
  rw [exec_bind, exec_tryCatch]
  dsimp only
  rcases exec (send p (.request (.new c.client.pending.nextId method params)))
    (c.onClient (·.issue.2)) w with ⟨_ | _, _, _⟩ <;> rfl

theorem exec_await_of_answered {id : UInt64} {answer : Response}
    (h : c.client.answers.get? id = some answer) (patience : Nat) :
    exec (await p id patience) c w =
      (.ok (some answer), { c with client := (c.client.collect id).2 }, w) := by
  rw [await, exec_get_bind, Client.collect, h]
  rfl

theorem exec_await_of_over {id : UInt64} (h : c.client.answers.get? id = none) {process : κ}
    (hprocess : c.process = some process) {patience : Nat}
    (hover : ¬(c.client.listening = true ∧ 0 < patience)) :
    exec (await p id patience) c w = (.ok none, c, w) := by
  rw [await, exec_get_bind, Client.collect, h, hprocess]
  dsimp only
  rw [dif_neg hover]
  rfl

/-- Who does not listen does not wait. -/
theorem exec_await_deaf (p : Processes (StateM σ) κ) {process : κ}
    (hprocess : c.process = some process)
    (hdeaf : c.client.listening = false) (id : UInt64) (patience : Nat) (w : σ) :
    ∃ c', exec (await p id patience) c w = (.ok (c.client.answers.get? id), c', w) ∧
      c'.process = some process := by
  cases h : c.client.answers.get? id with
  | some answer => exact ⟨_, exec_await_of_answered h patience, hprocess⟩
  | none =>
    refine ⟨c, exec_await_of_over h hprocess (fun hlistens => ?_), hprocess⟩
    exact absurd (hdeaf.symm.trans hlistens.1) Bool.false_ne_true

theorem exec_await_of_read {id : UInt64} (h : c.client.answers.get? id = none) {process : κ}
    (hprocess : c.process = some process) {patience : Nat}
    (hlistening : c.client.listening = true) (hpatience : 0 < patience) {arrival : Arrival} {w' : σ}
    (hread : (p.read process ⟨patience⟩).run w = (arrival, w')) :
    exec (await p id patience) c w =
      match exec (takeIn p arrival) c w' with
      | (.ok _, c, w) =>
        exec (await p id (patience - max 1 arrival.elapsed.nanoseconds)) c w
      | (.error e, c, w) => (.error e, c, w) := by
  rw [await, exec_get_bind, Client.collect, h, hprocess]
  dsimp only
  rw [dif_pos ⟨hlistening, hpatience⟩]
  change exec (liftM (p.read process ⟨patience⟩) >>= _) c w = _
  rw [exec_bind, exec_liftM, hread]
  dsimp only
  rw [exec_bind]
  rcases exec (takeIn p arrival) c w' with ⟨_ | _, _, _⟩ <;> rfl

theorem exec_takeIn (arrival : Arrival) :
    exec (takeIn p arrival) c w =
      let (messages, unread) := Rpc.arrived arrival.ended (c.unread ++ arrival.bytes)
      let (replies, client) := c.client.takeAll messages
      exec (for reply in replies do attempt (send p (.response reply)))
        { c with client, unread } w :=
  rfl

theorem exec_settle (answer : Response) :
    exec (settle answer : Exchange κ (StateM σ) Json) c w = (c.client.outcome answer, c, w) := by
  rw [settle, exec_get_bind]
  cases c.client.outcome answer <;> rfl

/-! ## Documents -/

/-- Remembers what became of a notification about a document. -/
def remember (digest : String → UInt64) (event : DocumentEvent) (written : Bool)
    (c : Connection κ) : Connection κ :=
  c.onClient fun client =>
    { client with documents := client.documents.afterEvent digest written event }

theorem exec_tell (digest : String → UInt64) (event : DocumentEvent) :
    exec (tell digest p event) c w =
      match exec (send p (.notification event.notification)) c w with
      | (.ok _, c, w) => (.ok (), c.remember digest event true, w)
      | (.error e, c, w) => (.error e, c.remember digest event false, w) := by
  rw [tell, exec_bind, exec_tryCatch]
  rcases exec (send p (.notification event.notification)) c w with ⟨_ | _, _, _⟩ <;> rfl

theorem exec_syncBy (digest : String → UInt64) (uri text : String) :
    exec (syncBy digest p uri text) c w =
      match c.client.documents.event? digest c.client.language uri text with
      | some event => exec (tell digest p event) c w
      | none => (.ok (), c, w) := by
  rw [syncBy, exec_get_bind]
  dsimp only
  cases c.client.documents.event? digest c.client.language uri text <;> rfl

theorem exec_close (uri : String) :
    exec (close p uri) c w =
      match c.client.documents.closing? uri with
      | some event => exec (tell Text.digest p event) c w
      | none => (.ok (), c, w) := by
  rw [close, exec_get_bind]
  cases c.client.documents.closing? uri <;> rfl

end Connection

end OutlineNav
