import OutlineNav.Language
import OutlineNav.Table

/-!
# Slots of clients

Every language has one slot for a client that all callers share. The operations here are the steps
that a caller takes at once; between two of them other callers may take steps. A caller who finds
the slot empty claims it, starts a client and finishes by putting it there. A caller who finds that
somebody has claimed the slot waits.
-/

namespace OutlineNav

inductive Slot (γ : Type) where
  /-- Somebody starts a client. -/
  | claimed
  | ready (client : γ)
  deriving DecidableEq, Repr

def Slot.client? {γ : Type} : Slot γ → Option γ
  | .claimed => none
  | .ready client => some client

abbrev Slots (γ : Type) := Table Language (Slot γ)

namespace Slots

variable {γ : Type}

def client? (s : Slots γ) (language : Language) : Option γ :=
  (s.get? language).bind Slot.client?

/-- Empties the slot, whatever it holds, and gives the client that was ready. -/
def clear (s : Slots γ) (language : Language) : Option γ × Slots γ :=
  (s.client? language, s.erase language)

/-- Claims the slot and tells whether it was empty; otherwise it stays as it is. -/
def claim (s : Slots γ) (language : Language) : Bool × Slots γ :=
  if s.contains language then (false, s) else (true, s.insert language .claimed)

/-- Puts a client into the slot, or empties it if the client could not be started. -/
def finish (s : Slots γ) (language : Language) : Option γ → Slots γ
  | some client => s.insert language (.ready client)
  | none => s.erase language

/-- Replaces the client in the slot, if one is there. -/
def update (s : Slots γ) (language : Language) (client : γ) : Slots γ :=
  s.modify language fun
    | .claimed => .claimed
    | .ready _ => .ready client

def clients (s : Slots γ) : List (Language × γ) :=
  s.entries.filterMap fun (language, slot) => slot.client?.map (language, ·)

end Slots

end OutlineNav
