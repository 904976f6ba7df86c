import OutlineNav.Client.Basic

/-!
# Traffic of requests

Many callers use a client at once. Each of them takes a number, has it registered, writes its
request and waits; then the answer is there, or writing fails, or the time is over, and in the last
two cases the number is withdrawn. Between any two of these steps others take theirs, and messages
of any kind are read until the connection is lost or the server is stopped. `Traffic.perform` is one
step of anybody, and a list of actions is one interleaving.

What a request waits on is a channel of its own: an answer is sent to the request that registered
the number last (`Traffic.owners`), whatever else carries that number. Steps act on the requests in
two ways only: one request gets to another stage (`setStage`), or the owners of some numbers are
ended (`endBy`). What the client contributes to the second is said once, for answers, lost
connections and stopped servers alike, by `Client.Settles`.
-/

namespace OutlineNav

open Rpc (Message Response)

/-! ## Requests and their endings -/

/-- How a request is ended. -/
inductive Ending where
  | answered (r : Response)
  /-- It failed together with all that were waiting. -/
  | failed (r : Response)
  /-- It could not be written. -/
  | unsent
  | expired
  /-- Its number came to be registered for, or withdrawn by, another request. -/
  | replaced
  deriving DecidableEq, Repr

/-- How far the caller of a request has come. -/
inductive Stage where
  | numbered
  | sending
  | unsent
  | waiting
  | overdue
  | returned (ending : Ending)
  deriving DecidableEq, Repr

structure Ticket where
  id : UInt64
  stage : Stage
  /-- All that has ended the request so far. -/
  endings : List Ending
  deriving DecidableEq, Repr

/-- The request is registered and has not ended. -/
def Ticket.IsOpen (t : Ticket) : Prop := t.stage ≠ .numbered ∧ t.endings = []

/-- A client and the requests of all its callers, in the order of their numbers. -/
structure Traffic where
  client : Client
  tickets : List Ticket
  /-- The request that each number was registered for last, by its position. -/
  owners : Table UInt64 Nat

namespace Traffic

/-! ## Steps -/

def start (language : Language) : Traffic := ⟨.new language, [], .empty⟩

def setStage (s : Traffic) (i : Nat) (stage : Stage) : Traffic :=
  { s with tickets := s.tickets.modify i fun t => { t with stage } }

/-- Ends requests that own their numbers, as `f` says for a number and a position. -/
def endBy (s : Traffic) (f : UInt64 → Nat → Option Ending) : Traffic :=
  { s with
    tickets := s.tickets.mapIdx fun i t =>
      if s.owners.get? t.id = some i then { t with endings := t.endings ++ (f t.id i).toList }
      else t }

/-- The client has changed; the answers that it collected are sent to the requests they belong
to. -/
def handOut (s : Traffic) (how : Response → Ending) (client : Client) : Traffic :=
  { s.endBy fun id _ => (client.answers.get? id).map how with
    client := { client with answers := .empty } }

/-- If a number waits, its owner is to be ended. -/
def releasing (s : Traffic) (id : UInt64) (how : Nat → Ending) (n : UInt64) (i : Nat) :
    Option Ending :=
  if n = id ∧ id ∈ s.client.pending.waiting then some (how i) else none

/-- Gives a number up. -/
def release (s : Traffic) (id : UInt64) (how : Nat → Ending) : Traffic :=
  { s.endBy (s.releasing id how) with client := s.client.abandon id }

/-- A request owns its number from now on. -/
def enroll (s : Traffic) (i : Nat) (id : UInt64) : Traffic :=
  { s.setStage i .sending with client := s.client.register id, owners := s.owners.insert id i }

/-- A request is registered; another one under its number is ended. -/
def register (s : Traffic) (i : Nat) (id : UInt64) : Traffic :=
  (s.release id fun _ => .replaced).enroll i id

/-- A request gives its number up and returns. -/
def withdraw (s : Traffic) (i : Nat) (id : UInt64) (ending : Ending) : Traffic :=
  (s.release id fun j => if j = i then ending else .replaced).setStage i (.returned ending)

inductive Action where
  /-- A caller takes the next number. It has found the connection in order, which may have
  changed. -/
  | issue
  | register (i : Nat)
  | written (i : Nat)
  | refused (i : Nat)
  | expire (i : Nat)
  | withdraw (i : Nat)
  | collect (i : Nat)
  | receive (message : Message)
  | lose
  | stop
  | clear

/-- A step, which changes nothing where it cannot be taken. -/
def perform (s : Traffic) : Action → Traffic
  | .issue =>
    let (id, client) := s.client.reserve
    { s with client, tickets := s.tickets ++ [⟨id, .numbered, []⟩] }
  | .register i =>
    match s.tickets[i]? with
    | some ⟨id, .numbered, _⟩ => s.register i id
    | _ => s
  | .written i =>
    match s.tickets[i]? with
    | some ⟨_, .sending, _⟩ => s.setStage i .waiting
    | _ => s
  | .refused i =>
    match s.tickets[i]? with
    | some ⟨_, .sending, _⟩ => s.setStage i .unsent
    | _ => s
  | .expire i =>
    match s.tickets[i]? with
    | some ⟨_, .waiting, _⟩ => s.setStage i .overdue
    | _ => s
  | .withdraw i =>
    match s.tickets[i]? with
    | some ⟨id, .unsent, _⟩ => s.withdraw i id .unsent
    | some ⟨id, .overdue, _⟩ => s.withdraw i id .expired
    | _ => s
  | .collect i =>
    match s.tickets[i]? with
    | some ⟨_, .waiting, ending :: _⟩ => s.setStage i (.returned ending)
    | _ => s
  | .receive message =>
    if s.client.listening then s.handOut .answered (s.client.take message).2 else s
  | .lose => if s.client.listening then s.handOut .failed s.client.lose else s
  | .stop => { s with client := { s.client with stopping := true } }
  | .clear =>
    s.handOut .failed (s.client.failPending ServiceError.cancelledCode "Server shutdown")

def run (s : Traffic) (actions : List Action) : Traffic := actions.foldl perform s

/-! ## What the steps do to the requests -/

section

variable {s : Traffic} {i j : Nat} {t : Ticket}

theorem setStage_tickets (stage : Stage) :
    (s.setStage i stage).tickets[j]? =
      if i = j then s.tickets[j]?.map fun t => { t with stage } else s.tickets[j]? := by
  rw [setStage, List.getElem?_modify]
  split <;> simp

theorem setStage_ne (hij : i ≠ j) (stage : Stage) :
    (s.setStage i stage).tickets[j]? = s.tickets[j]? := by
  rw [setStage_tickets, if_neg hij]

theorem setStage_length (stage : Stage) : (s.setStage i stage).tickets.length = s.tickets.length :=
  List.length_modify ..

theorem endBy_tickets (f : UInt64 → Nat → Option Ending) :
    (s.endBy f).tickets[i]? = s.tickets[i]?.map fun t =>
      if s.owners.get? t.id = some i then { t with endings := t.endings ++ (f t.id i).toList }
      else t :=
  List.getElem?_mapIdx

/-- Ending a request leaves its number and its stage. -/
theorem endBy_ticket (ht : s.tickets[i]? = some t) (f : UInt64 → Nat → Option Ending) :
    ∃ t' : Ticket, (s.endBy f).tickets[i]? = some t' ∧ t'.id = t.id ∧ t'.stage = t.stage := by
  rw [endBy_tickets, ht]
  refine ⟨_, rfl, ?_⟩
  dsimp only
  split <;> exact ⟨rfl, rfl⟩

/-- Ending nobody. -/
theorem endBy_none {f : UInt64 → Nat → Option Ending} (hf : ∀ n i, f n i = none) :
    s.endBy f = s := by
  have htickets : (s.endBy f).tickets = s.tickets := by
    apply List.ext_getElem?
    intro i
    rw [endBy_tickets]
    cases s.tickets[i]? <;> simp [hf]
  exact congrArg (fun tickets => { s with tickets }) htickets

theorem endBy_length (f : UInt64 → Nat → Option Ending) :
    (s.endBy f).tickets.length = s.tickets.length :=
  List.length_mapIdx

end

end Traffic

/-! ## What a client does with its waiting requests -/

/-- A client without collected answers has become one that collected the answers of all requests
that wait no more, each answer for the request that its identifier names. -/
structure Client.Settles (before after : Client) : Prop where
  nextId : after.pending.nextId = before.pending.nextId
  sublist : after.pending.waiting.Sublist before.pending.waiting
  collected : ∀ n, (after.answers.get? n).isSome ↔
    n ∈ before.pending.waiting ∧ n ∉ after.pending.waiting
  fits : ∀ n r, after.answers.get? n = some r → r.id.bind Pending.number? = some n

namespace Client

variable {c : Client}

@[simp] theorem mem_abandon (id n : UInt64) :
    n ∈ (c.abandon id).pending.waiting ↔ n ∈ c.pending.waiting ∧ n ≠ id := by
  simp [abandon, Pending.abandon]

theorem settles_refl (h : c.answers = .empty) : c.Settles c where
  nextId := rfl
  sublist := .refl _
  collected n := by simp [h]
  fits n r hr := by simp [h] at hr

/-- Whether messages are still taken does not matter. -/
theorem Settles.listening {c' : Client} (h : c.Settles c') (listening : Bool) :
    c.Settles { c' with listening } :=
  ⟨h.nextId, h.sublist, h.collected, h.fits⟩

theorem settles_complete (h : c.answers = .empty) {id : UInt64} {r : Response}
    (hwaiting : id ∈ c.pending.waiting) (hid : r.id.bind Pending.number? = some id) :
    c.Settles (c.complete id r) where
  nextId := rfl
  sublist := List.filter_sublist
  collected n := by
    rw [complete, h]
    by_cases hn : n = id
    · subst hn
      simp [hwaiting]
    · simp [Table.get?_insert_ne _ hn, hn]
  fits n r' hr' := by
    rw [complete, h] at hr'
    by_cases hn : n = id
    · subst hn
      rw [Table.get?_insert_self] at hr'
      cases hr'
      exact hid
    · simp [Table.get?_insert_ne _ hn] at hr'

theorem settles_deliver (h : c.answers = .empty) (r : Response) : c.Settles (c.deliver r) := by
  rw [deliver]
  split
  · next n hn =>
    obtain ⟨hnumber, hwaiting⟩ := Pending.bind_target?_eq_some.mp hn
    exact settles_complete h hwaiting hnumber
  · exact settles_refl h

theorem settles_take (h : c.answers = .empty) (message : Message) :
    c.Settles (c.take message).2 := by
  have hhandle : c.Settles (c.handle message).2 := by
    cases message with
    | request r => exact settles_refl h
    | response r => exact settles_deliver h r
    | notification n => exact settles_refl h
  exact hhandle.listening _

/-- After all of some requests have failed, those have answers and the others wait as before. -/
theorem failAll (code : Int) (message : String) (ids : List UInt64) :
    let c' := ids.foldl (fun c id => c.complete id (.failed (.number id) code message)) c
    c'.pending.nextId = c.pending.nextId ∧
    (∀ n, n ∈ c'.pending.waiting ↔ n ∈ c.pending.waiting ∧ n ∉ ids) ∧
    c'.pending.waiting.Sublist c.pending.waiting ∧
    ∀ n, c'.answers.get? n =
      if n ∈ ids then some (.failed (.number n) code message) else c.answers.get? n := by
  induction ids generalizing c with
  | nil => simp
  | cons id ids ih =>
    obtain ⟨hnext, hwaiting, hsublist, hanswers⟩ :=
      ih (c := c.complete id (.failed (.number id) code message))
    refine ⟨hnext, fun n => ?_, hsublist.trans List.filter_sublist, fun n => ?_⟩
    · rw [List.foldl_cons, hwaiting, complete, List.mem_cons]
      simp only [mem_abandon, and_assoc, not_or]
    · rw [List.foldl_cons, hanswers, complete]
      by_cases hn : n = id
      · subst hn
        simp
      · simp [Table.get?_insert_ne _ hn, hn]

theorem settles_failPending (h : c.answers = .empty) (code : Int) (message : String) :
    c.Settles (c.failPending code message) := by
  obtain ⟨hnext, hwaiting, hsublist, hanswers⟩ := failAll (c := c) code message c.pending.waiting
  refine ⟨hnext, hsublist, fun n => ?_, fun n r hr => ?_⟩
  · rw [failPending, hanswers, hwaiting, h]
    split <;> simp [*]
  · rw [failPending, hanswers, h] at hr
    split at hr
    · cases hr
      rfl
    · simp at hr

theorem settles_lose (h : c.answers = .empty) : c.Settles c.lose := by
  rw [lose]
  split
  · exact (settles_refl h).listening _
  · have hfail := settles_failPending h (ServiceError.serverTerminated c.language).code
      (ServiceError.serverTerminated c.language).message
    exact ⟨hfail.nextId, hfail.sublist, hfail.collected, hfail.fits⟩

end Client

end OutlineNav
