import OutlineNav.Rpc.Message
import OutlineNav.Text.Unsigned

/-!
# Requests in flight

Every request gets the next number. It waits for an answer until it is answered or abandoned.
Servers may give the number of a request back as a text.
-/

namespace OutlineNav

open Rpc (RequestId)

structure Pending where
  nextId : UInt64
  /-- The requests without an answer, the latest in front. -/
  waiting : List UInt64
  deriving DecidableEq, Repr

namespace Pending

def initial : Pending := ⟨1, []⟩

/-- Takes the next number. -/
def reserve (p : Pending) : UInt64 × Pending := (p.nextId, { p with nextId := p.nextId + 1 })

/-- The request with the number waits from now on. -/
def register (p : Pending) (id : UInt64) : Pending :=
  { p with waiting := id :: p.waiting.filter (· != id) }

def abandon (p : Pending) (id : UInt64) : Pending :=
  { p with waiting := p.waiting.filter (· != id) }

/-- The number that an identifier stands for. -/
def number? : RequestId → Option UInt64
  | .number n => some n
  | .text s => (Text.unsigned64 s.toList).toOption

/-- The waiting request that an answer with the identifier belongs to. -/
def target? (p : Pending) (id : RequestId) : Option UInt64 :=
  (number? id).filter (p.waiting.contains ·)

/-- An answer belongs to the waiting request whose number its identifier stands for. -/
theorem bind_target?_eq_some {p : Pending} {id? : Option RequestId} {n : UInt64} :
    id?.bind p.target? = some n ↔ id?.bind number? = some n ∧ n ∈ p.waiting := by
  cases id? with
  | none => simp
  | some id => simp [target?, Option.filter_eq_some_iff]

def clear (p : Pending) : Pending := { p with waiting := [] }

end Pending

end OutlineNav
