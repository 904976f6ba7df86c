import OutlineNav.Proofs.DocumentCalls

/-!
# Taking leave of a server

Stopping a server begins politely: it is asked to shut down, and told to exit once it has agreed.
The answer is waited for like every other, but a client that is stopping takes one message and no
further one (`Client.takeAll_stopping`). So all depends on the first thing that the server says
after it was asked (`firstHeard`), and what is written can be read off it: what the waiting comes to
(`exec_await_heard`), what is said in return (`saidInStopping`), and so when the notification to
exit is written at all (`exit_after_first_heard`).

A server that agrees, but first tells about something else, is not told to exit (`exit_kept_back`).
-/

namespace OutlineNav

open Rpc (Message Response)
open Server (Arrival Duration Processes)

variable {κ σ ω : Type}

namespace Connection

open Exchange

/-! ## What is written -/

/-- A process was given these messages. -/
def Gives (process : κ) (messages : List Message) (deliveries : List (Delivery κ)) : Prop :=
  deliveries.map (fun d => (d.process, d.bytes)) = messages.map fun m => (process, m.wire)

theorem Gives.append {process : κ} {messages later : List Message}
    {deliveries rest : List (Delivery κ)} (h : Gives process messages deliveries)
    (hlater : Gives process later rest) :
    Gives process (messages ++ later) (deliveries ++ rest) := by
  rw [Gives, List.map_append, List.map_append, h, hlater]

theorem exec_send_recorded {p : Processes (StateM ω) κ} {c : Connection κ} {process : κ}
    (h : c.process = some process) (message : Message) (r : Recorded κ ω) :
    ∃ deliveries world,
      (exec (send p.recorded message) c r).2 = (c, ⟨r.record ++ deliveries, world⟩) ∧
      Gives process [message] deliveries := by
  rw [exec_send_some h, run_write_recorded]
  exact ⟨_, _, rfl, rfl⟩

/-- All replies are written, whether the writes succeed or not. -/
theorem exec_replies {p : Processes (StateM ω) κ} {c : Connection κ} {process : κ}
    (h : c.process = some process) (replies : List Response) (r : Recorded κ ω) :
    ∃ deliveries world,
      exec (for reply in replies do attempt (send p.recorded (.response reply))) c r =
        (.ok (), c, ⟨r.record ++ deliveries, world⟩) ∧
      Gives process (replies.map .response) deliveries := by
  induction replies generalizing r with
  | nil => exact ⟨[], r.world, by rw [List.append_nil]; rfl, rfl⟩
  | cons reply rest ih =>
    obtain ⟨first, world, hfirst, hgives⟩ := exec_send_recorded (p := p) h (.response reply) r
    obtain ⟨deliveries, world', hrest, hgives'⟩ := ih ⟨r.record ++ first, world⟩
    refine ⟨first ++ deliveries, world', ?_, hgives.append hgives'⟩
    simp only [List.forIn_cons, bind_assoc]
    rw [exec_bind, exec_attempt, hfirst]
    dsimp only
    rw [pure_bind]
    exact hrest.trans (by rw [List.append_assoc])

/-! ## The first thing heard -/

/-- What a process says first: listens until a message, or something wrong, has arrived or the time
is over. -/
def firstHeard (p : Processes (StateM ω) κ) (process : κ) (patience : Nat) (unread : List UInt8)
    (w : ω) : Option (Except Rpc.FrameError Message) :=
  if 0 < patience then
    let (arrival, w) := (p.read process ⟨patience⟩).run w
    match Rpc.arrived arrival.ended (unread ++ arrival.bytes) with
    | (first :: _, _) => some first
    | ([], unread) =>
      firstHeard p process (patience - max 1 arrival.elapsed.nanoseconds) unread w
  else none
termination_by patience

end Connection

namespace Client

variable {c : Client}

@[simp] theorem complete_stopping (id : UInt64) (r : Response) :
    (c.complete id r).stopping = c.stopping := rfl

@[simp] theorem handle_stopping (message : Message) :
    (c.handle message).2.stopping = c.stopping := by
  cases message with
  | request r => rfl
  | notification n => rfl
  | response r =>
    rw [handle, deliver]
    split <;> rfl

theorem takeAll_deaf (h : c.listening = false) (messages : List (Except Rpc.FrameError Message)) :
    c.takeAll messages = ([], c) := by
  cases messages with
  | nil => rfl
  | cons first rest => simp [takeAll, h]

/-- A client that is stopping does not listen any more after it has heard something. -/
theorem takeAll_listening (hstopping : c.stopping = true)
    (first : Except Rpc.FrameError Message) (rest : List (Except Rpc.FrameError Message)) :
    (c.takeAll (first :: rest)).2.listening = false := by
  by_cases hlistening : c.listening = true
  · cases first with
    | error e => simp [takeAll, hlistening, lose, hstopping]
    | ok message =>
      have htake : (c.take message).2.listening = false := by simp [take, hstopping]
      simp [takeAll, hlistening, takeAll_deaf htake, htake]
  · rw [takeAll_deaf (Bool.eq_false_iff.mpr hlistening)]
    exact Bool.eq_false_iff.mpr hlistening

/-- A client that is stopping takes one message and no further one. -/
theorem takeAll_stopping (hstopping : c.stopping = true)
    (first : Except Rpc.FrameError Message) (rest : List (Except Rpc.FrameError Message)) :
    c.takeAll (first :: rest) = c.takeAll [first] := by
  cases first with
  | error e => simp [takeAll]
  | ok message =>
    have htake : (c.take message).2.listening = false := by simp [take, hstopping]
    simp [takeAll, takeAll_deaf htake]

/-- An answer is kept under the number of the waiting request that it names. -/
theorem deliver_answers {id : UInt64} (hwaiting : id ∈ c.pending.waiting) (r : Response) :
    (c.deliver r).answers.get? id =
      if r.id.bind Pending.number? = some id then some r else c.answers.get? id := by
  rw [deliver]
  split
  · next n hn =>
    obtain ⟨hnumber, -⟩ := Pending.bind_target?_eq_some.mp hn
    rw [hnumber]
    by_cases hid : n = id
    · subst hid
      rw [if_pos rfl]
      exact Table.get?_insert_self _ _ _
    · rw [if_neg (fun h => hid (Option.some.inj h))]
      exact Table.get?_insert_ne _ (Ne.symm hid) _
  · next hnone =>
    rw [if_neg]
    intro hnumber
    exact Option.some_ne_none _
      ((Pending.bind_target?_eq_some.mpr ⟨hnumber, hwaiting⟩).symm.trans hnone)

end Client

namespace Connection

open Exchange

/-- A client that is stopping waits until it has heard the first thing, and acts on that alone. -/
theorem exec_await_stopping (p : Processes (StateM ω) κ) {c : Connection κ} {process : κ}
    (hprocess : c.process = some process) (hstopping : c.client.stopping = true)
    (hlistening : c.client.listening = true) {id : UInt64}
    (hanswers : c.client.answers.get? id = none) (patience : Nat) (r : Recorded κ ω) :
    let heard := firstHeard p process patience c.unread r.world
    let (replies, client) := c.client.takeAll heard.toList
    ∃ deliveries c' world,
      exec (await p.recorded id patience) c r =
        (.ok (client.answers.get? id), c', ⟨r.record ++ deliveries, world⟩) ∧
      Gives process (replies.map .response) deliveries ∧ c'.process = some process := by
  induction patience using Nat.strongRecOn generalizing c r with
  | ind patience ih =>
    by_cases hpatience : 0 < patience
    · rcases hread : (p.read process ⟨patience⟩).run r.world with ⟨arrival, world⟩
      have hrecorded :
          (p.recorded.read process ⟨patience⟩).run r = (arrival, { r with world }) := by
        change (let (a, world) := (p.read process ⟨patience⟩).run r.world
          (a, { r with world })) = _
        rw [hread]
      rw [exec_await_of_read hanswers hprocess hlistening hpatience hrecorded, exec_takeIn,
        firstHeard, if_pos hpatience, hread]
      dsimp only
      rcases Rpc.arrived arrival.ended (c.unread ++ arrival.bytes) with ⟨_ | ⟨first, rest⟩, unread⟩
      · -- Nothing is complete yet.
        exact ih _ (by omega) (c := { c with unread }) hprocess hstopping hlistening hanswers _
      · dsimp only
        rw [Option.toList_some, Client.takeAll_stopping hstopping first rest]
        have hdeaf := Client.takeAll_listening hstopping first []
        rcases hall : c.client.takeAll [first] with ⟨replies, client⟩
        rw [hall] at hdeaf
        obtain ⟨deliveries, world', hreplies, hwires⟩ :=
          exec_replies (p := p) (c := { c with client, unread }) hprocess replies { r with world }
        dsimp only at hdeaf ⊢
        rw [hreplies]
        dsimp only
        obtain ⟨c', hwaited, hprocess'⟩ :=
          exec_await_deaf p.recorded (c := { c with client, unread }) hprocess hdeaf id
            (patience - max 1 arrival.elapsed.nanoseconds) ⟨r.record ++ deliveries, world'⟩
        exact ⟨deliveries, c', world', hwaited, hwires, hprocess'⟩
    · rw [exec_await_of_over hanswers hprocess (fun h => hpatience h.2), firstHeard,
        if_neg hpatience]
      exact ⟨[], c, r.world, by simp [hanswers], rfl, hprocess⟩

/-! ## What is said -/

def shutdownMessage (id : UInt64) : Message := .request (.new id "shutdown" none)

def exitMessage : Message := .notification (.new "exit" none)

def cancelMessage (id : UInt64) : Message :=
  .notification (.new "$/cancelRequest" (some (.object [("id", .nat id.toNat)])))

/-- The answer to a request, if that is what was heard. -/
def answerTo (id : UInt64) : Option (Except Rpc.FrameError Message) → Option Response
  | some (.ok (.response r)) => if r.id.bind Pending.number? = some id then some r else none
  | _ => none

/-- The answers that are owed for what was heard. -/
def repliesTo : Option (Except Rpc.FrameError Message) → List Response
  | some (.ok (.request r)) => [Client.reply r]
  | _ => []

/-- What is said after an answer, or none, to the request to shut down. -/
def partingWords (id : UInt64) (own : Duration) : Option Response → List Message
  | some answer => if answer.outcome = .ok .null then [exitMessage] else []
  | none => if own.nanoseconds ≤ shutdownPatience.nanoseconds then [cancelMessage id] else []

/-- All that is said to a server that is being stopped, after the request to shut down. -/
def farewells (id : UInt64) (own : Duration) (heard : Option (Except Rpc.FrameError Message)) :
    List Message :=
  (repliesTo heard).map .response ++ partingWords id own (answerTo id heard)

theorem takeAll_heard {c : Client} (hlistening : c.listening = true) (hstopping : c.stopping = true)
    {id : UInt64} (hwaiting : id ∈ c.pending.waiting) (hanswers : c.answers.get? id = none)
    (heard : Option (Except Rpc.FrameError Message)) :
    (c.takeAll heard.toList).1 = repliesTo heard ∧
      (c.takeAll heard.toList).2.answers.get? id = answerTo id heard := by
  rcases heard with _ | _ | r | r | n
  · exact ⟨rfl, hanswers⟩
  · simp [Client.takeAll, hlistening, Client.lose, hstopping, repliesTo, answerTo, hanswers]
  · simp [Client.takeAll, hlistening, Client.take, Client.handle, repliesTo, answerTo, hanswers]
  · have hdeliver := Client.deliver_answers hwaiting r
    rw [hanswers] at hdeliver
    simp [Client.takeAll, hlistening, Client.take, Client.handle, repliesTo, answerTo, hdeliver]
  · simp [Client.takeAll, hlistening, Client.take, Client.handle, repliesTo, answerTo, hanswers]

/-- So it waits for an answer in vain, unless that is what it hears first. -/
theorem exec_await_heard (p : Processes (StateM ω) κ) {c : Connection κ} {process : κ}
    (hprocess : c.process = some process) (hstopping : c.client.stopping = true)
    (hlistening : c.client.listening = true) {id : UInt64}
    (hwaiting : id ∈ c.client.pending.waiting) (hanswers : c.client.answers.get? id = none)
    (patience : Nat) (r : Recorded κ ω) :
    let heard := firstHeard p process patience c.unread r.world
    ∃ deliveries c' world,
      exec (await p.recorded id patience) c r =
        (.ok (answerTo id heard), c', ⟨r.record ++ deliveries, world⟩) ∧
      Gives process ((repliesTo heard).map .response) deliveries ∧ c'.process = some process := by
  intro heard
  obtain ⟨hreplies, hanswer⟩ := takeAll_heard hlistening hstopping hwaiting hanswers heard
  have hheard := exec_await_stopping p hprocess hstopping hlistening hanswers patience r
  rw [← hreplies, ← hanswer]
  exact hheard

theorem outcome_eq_null (c : Client) (answer : Response) :
    c.outcome answer = .ok .null ↔ answer.outcome = .ok .null := by
  rw [Client.outcome]
  cases answer.outcome with
  | ok v => simp
  | error f =>
    dsimp only
    split <;> simp

theorem exec_takeLeave (p : Processes (StateM ω) κ) {c : Connection κ} {process : κ}
    (hprocess : c.process = some process) (id : UInt64) (own : Duration) (answer? : Option Response)
    (r : Recorded κ ω) :
    ∃ deliveries c' world,
      (exec (takeLeave p.recorded id own answer?) c r).2 = (c', ⟨r.record ++ deliveries, world⟩) ∧
      Gives process (partingWords id own answer?) deliveries ∧ c'.process = some process := by
  cases answer? with
  | none =>
    rw [takeLeave, partingWords]
    split
    · obtain ⟨deliveries, world, hsent, hgives⟩ :=
        exec_send_recorded (p := p) (c := c.onClient (·.abandon id)) hprocess (cancelMessage id) r
      refine ⟨deliveries, c.onClient (·.abandon id), world, ?_, hgives, hprocess⟩
      change
        (exec (attempt (send p.recorded (cancelMessage id))) (c.onClient (·.abandon id)) r).2 = _
      rw [exec_attempt, hsent]
    · exact ⟨[], c, r.world, by rw [List.append_nil]; rfl, rfl, hprocess⟩
  | some answer =>
    rw [takeLeave, partingWords, exec_bind, exec_settle]
    by_cases hnull : answer.outcome = .ok .null
    · obtain ⟨deliveries, world, hsent, hgives⟩ :=
        exec_send_recorded (p := p) hprocess exitMessage r
      rw [if_pos hnull, (outcome_eq_null c.client answer).mpr hnull]
      exact ⟨deliveries, c, world, hsent, hgives, hprocess⟩
    · rw [if_neg hnull]
      have hother : c.client.outcome answer ≠ .ok .null :=
        fun h => hnull ((outcome_eq_null c.client answer).mp h)
      refine ⟨[], c, r.world, ?_, rfl, hprocess⟩
      rw [List.append_nil]
      cases houtcome : c.client.outcome answer with
      | error e => rfl
      | ok v =>
        dsimp only
        rw [if_neg (fun hv => hother (houtcome.trans (congrArg _ hv)))]
        rfl

/-- What is said to a server that is being stopped: the request to shut down, and if that could be
written, what the first thing heard asks for. -/
def saidInStopping (p : Processes (StateM ω) κ) (own : Duration) (c : Connection κ) (process : κ)
    (w : ω) : List Message :=
  let id := c.client.pending.nextId
  let (written, w) := (p.write process (shutdownMessage id).wire).run w
  shutdownMessage id ::
    if written.isOk then
      farewells id own
        (firstHeard p process (min own.nanoseconds shutdownPatience.nanoseconds) c.unread w)
    else []

theorem exec_askToExit (p : Processes (StateM ω) κ) (own : Duration) {c : Connection κ}
    {process : κ} (hprocess : c.process = some process) (hstopping : c.client.stopping = true)
    (hlistening : c.client.listening = true) (hterminated : c.client.terminated = false)
    (hanswers : c.client.answers.get? c.client.pending.nextId = none) (r : Recorded κ ω) :
    ∃ deliveries c' world,
      (exec (askToExit p.recorded own) c r).2 = (c', ⟨r.record ++ deliveries, world⟩) ∧
      Gives process (saidInStopping p own c process r.world) deliveries ∧
      c'.process = some process := by
  rw [askToExit, exec_bind, exec_issue hterminated]
  dsimp only
  rw [exec_send_some (c := c.onClient (·.issue.2)) hprocess, run_write_recorded, saidInStopping]
  rw [show Message.request (.new c.client.pending.nextId "shutdown" none) =
    shutdownMessage c.client.pending.nextId from rfl]
  rcases (p.write process (shutdownMessage c.client.pending.nextId).wire).run r.world with
    ⟨e | _, world⟩
  · exact ⟨[_], _, world, rfl, rfl, hprocess⟩
  · dsimp only [Except.mapError, Except.isOk, Except.toBool]
    obtain ⟨replies, c₁, world₁, hwaited, hreplies, hprocess₁⟩ := exec_await_heard p
      (c := c.onClient (·.issue.2)) hprocess hstopping hlistening List.mem_cons_self hanswers
      (min own.nanoseconds shutdownPatience.nanoseconds)
      ⟨r.record ++ [⟨process, (shutdownMessage c.client.pending.nextId).wire, true⟩], world⟩
    obtain ⟨parting, c₂, world₂, hparted, hpartings, hprocess₂⟩ :=
      exec_takeLeave p hprocess₁ c.client.pending.nextId own (answerTo c.client.pending.nextId
        (firstHeard p process (min own.nanoseconds shutdownPatience.nanoseconds) c.unread world))
        ⟨r.record ++ [⟨process, (shutdownMessage c.client.pending.nextId).wire, true⟩] ++ replies,
          world₁⟩
    refine ⟨⟨process, (shutdownMessage c.client.pending.nextId).wire, true⟩ :: (replies ++ parting),
      c₂, world₂, ?_, congrArg (List.cons _) (hreplies.append hpartings), hprocess₂⟩
    rw [exec_bind, hwaited]
    exact hparted.trans (by simp)

/-- The record of a server being stopped. -/
theorem exec_stopWithin (p : Processes (StateM ω) κ) (own : Duration) {c : Connection κ}
    {process : κ} (hprocess : c.process = some process) (hlistening : c.client.listening = true)
    (hterminated : c.client.terminated = false)
    (hanswers : c.client.answers.get? c.client.pending.nextId = none) (w : ω) :
    ∃ elapsed deliveries c' world,
      exec (stopWithin p.recorded own) c ⟨[], w⟩ = (.ok elapsed, c', ⟨deliveries, world⟩) ∧
      Gives process (saidInStopping p own c process w) deliveries ∧ c'.process = none := by
  obtain ⟨deliveries, c', world, hasked, hgives, hprocess'⟩ :=
    exec_askToExit p own (c := c.onClient fun c => { c with stopping := true }) hprocess rfl
      hlistening hterminated hanswers ⟨[], w⟩
  refine ⟨((endProcess p (some process)).run world).1, deliveries,
    ({ c' with process := none } : Connection κ).onClient
      (·.failPending ServiceError.cancelledCode "Server shutdown"),
    ((endProcess p (some process)).run world).2, ?_, hgives, rfl⟩
  change exec (attempt (askToExit p.recorded own) >>= _)
    (c.onClient fun c => { c with stopping := true }) ⟨[], w⟩ = _
  rw [exec_bind, exec_attempt, hasked]
  dsimp only
  rw [exec_get_bind, hprocess', exec_bind, exec_liftM]
  rfl

theorem exit_mem_partingWords {id : UInt64} {own : Duration} {answer? : Option Response} :
    exitMessage ∈ partingWords id own answer? ↔
      ∃ answer, answer? = some answer ∧ answer.outcome = .ok .null := by
  cases answer? with
  | none =>
    rw [partingWords]
    split <;> simp [exitMessage, cancelMessage, Rpc.Notification.new]
  | some answer =>
    rw [partingWords]
    split <;> simp [*]

theorem answerTo_eq_some {id : UInt64} {heard : Option (Except Rpc.FrameError Message)}
    {answer : Response} :
    answerTo id heard = some answer ↔
      heard = some (.ok (.response answer)) ∧ answer.id.bind Pending.number? = some id := by
  rcases heard with _ | _ | r | r | n
  · simp [answerTo]
  · simp [answerTo]
  · simp [answerTo]
  · simp only [answerTo, Option.ite_none_right_eq_some, Option.some.injEq, Except.ok.injEq,
      Message.response.injEq]
    constructor
    · rintro ⟨hid, rfl⟩
      exact ⟨rfl, hid⟩
    · rintro ⟨rfl, hid⟩
      exact ⟨hid, rfl⟩
  · simp [answerTo]

theorem exit_mem_farewells {id : UInt64} {own : Duration}
    {heard : Option (Except Rpc.FrameError Message)} :
    exitMessage ∈ farewells id own heard ↔
      ∃ answer, heard = some (.ok (.response answer)) ∧
        answer.id.bind Pending.number? = some id ∧ answer.outcome = .ok .null := by
  have hreplies : exitMessage ∉ (repliesTo heard).map Message.response := by simp [exitMessage]
  rw [farewells, List.mem_append, or_iff_right hreplies, exit_mem_partingWords]
  simp only [answerTo_eq_some, and_assoc]

/-- **A server is told to exit if and only if it agrees at once.** Whoever stops a server that is
listened to writes a request to shut down. If that can be written, the first thing that the server
says within the time is the last one that is heard: a request of the server is answered, and only if
it is the answer to the request to shut down, and agrees, the notification to exit follows. What the
server says after the first thing does not matter, and whatever it says, stopping succeeds. -/
theorem exit_after_first_heard (p : Processes (StateM ω) κ) (own : Duration) {c : Connection κ}
    {process : κ} (hprocess : c.process = some process) (hlistening : c.client.listening = true)
    (hterminated : c.client.terminated = false)
    (hanswers : c.client.answers.get? c.client.pending.nextId = none) (w : ω) :
    let id := c.client.pending.nextId
    let said := saidInStopping p own c process w
    (∃ elapsed deliveries c' world,
      exec (stopWithin p.recorded own) c ⟨[], w⟩ = (.ok elapsed, c', ⟨deliveries, world⟩) ∧
      Gives process said deliveries ∧ c'.process = none) ∧
    (exitMessage ∈ said ↔
      ∃ world answer, (p.write process (shutdownMessage id).wire).run w = (.ok (), world) ∧
        firstHeard p process (min own.nanoseconds shutdownPatience.nanoseconds) c.unread world =
          some (.ok (.response answer)) ∧
        answer.id.bind Pending.number? = some id ∧ answer.outcome = .ok .null) := by
  intro id said
  refine ⟨exec_stopWithin p own hprocess hlistening hterminated hanswers w, ?_⟩
  have hsaid : exitMessage ∈ said ↔ exitMessage ∈ said.tail := by
    have hshutdown : exitMessage ≠ shutdownMessage id := nofun
    exact List.mem_cons.trans (or_iff_right hshutdown)
  rw [hsaid]
  change exitMessage ∈ (saidInStopping p own c process w).tail ↔ _
  rw [saidInStopping]
  change _ ↔ ∃ world answer,
    (p.write process (shutdownMessage c.client.pending.nextId).wire).run w = (.ok (), world) ∧ _
  rcases (p.write process (shutdownMessage c.client.pending.nextId).wire).run w with ⟨e | _, world⟩
  · refine iff_of_false (by simp [Except.isOk, Except.toBool]) ?_
    rintro ⟨_, _, hwritten, -⟩
    cases hwritten
  · refine exit_mem_farewells.trans ⟨?_, ?_⟩
    · rintro ⟨answer, hanswer⟩
      exact ⟨world, answer, rfl, hanswer⟩
    · rintro ⟨_, answer, hwritten, hanswer⟩
      cases hwritten
      exact ⟨answer, hanswer⟩

end Connection

/-- Processes that take everything and say what the world foretells, a piece whenever they are
listened to. -/
def Server.Processes.talkative : Processes (StateM (List (List UInt8))) Unit where
  ownNumber := pure 0
  installed _ := pure true
  spawn _ _ _ := pure (.ok ())
  write _ _ := pure (.ok ())
  read _ patience := fun
    | bytes :: later => (⟨bytes, false, ⟨0⟩⟩, later)
    | [] => (⟨[], false, patience⟩, [])
  closeInput _ := pure ()
  isRunning _ := pure true
  stop _ := pure ⟨0⟩

namespace Talkative

/-- The answer that agrees to shut down. A result that is null is read as an absent one. -/
def agreement (result : Option Json) : Message :=
  .response ⟨Rpc.version, some (.number 1), result, none⟩

def notice : Message :=
  .notification (.new "window/logMessage" (some (.object [("message", .str "bye")])))

/-- The server says these messages while it is being stopped. -/
def stopped (messages : List Message) :
    Except ServiceError Duration × Connection Unit × Recorded Unit (List (List UInt8)) :=
  Exchange.exec (Connection.stopWithin Processes.talkative.recorded ⟨3 * Duration.perSecond⟩)
    (.joined .rust ()) ⟨[], messages.map Message.wire⟩

end Talkative

open Talkative Connection in
theorem exit_after_first_heard_agreement :
    exitMessage.wire ∈ (stopped [agreement (some .null)]).2.2.record.map Delivery.bytes := by
  obtain ⟨⟨elapsed, deliveries, c', world, hrun, hgives, -⟩, hexit⟩ :=
    exit_after_first_heard Processes.talkative ⟨3 * Duration.perSecond⟩ (c := .joined .rust ())
      rfl rfl rfl rfl [(agreement (some .null)).wire]
  have hsaid := hexit.mpr ⟨_, ⟨Rpc.version, some (.number 1), none, none⟩, rfl, by decide +kernel,
    rfl, rfl⟩
  have hrecord : (stopped [agreement (some .null)]).2.2.record = deliveries :=
    congrArg (fun result => result.2.2.record) hrun
  have hbytes := congrArg (List.map Prod.snd) hgives
  rw [List.map_map, List.map_map] at hbytes
  rw [hrecord]
  exact hbytes ▸ List.mem_map_of_mem hsaid

open Talkative Connection in
/-- The server agrees, but has said something else before: it is not told to exit, and nobody has
listened to its answer. -/
theorem exit_kept_back :
    Rpc.arrived false (notice.wire ++ (agreement (some .null)).wire) =
        ([.ok notice, .ok (agreement none)], []) ∧
      (stopped [notice, agreement (some .null)]).2.2.record =
        [⟨(), (shutdownMessage 1).wire, true⟩] ∧
      (stopped [notice, agreement (some .null)]).2.2.world = [(agreement (some .null)).wire] ∧
      exitMessage.wire ∉ (stopped [notice, agreement (some .null)]).2.2.record.map (·.bytes) := by
  refine ⟨?_, ?_, ?_, ?_⟩ <;> decide +kernel

end OutlineNav
