import OutlineNav.Client.Slots

/-!
# Callers

What a caller does to get the client of a language and to work with it, step by step. A step that
looks into the slots or changes them is taken at once. Between two of those, something may have to
come about outside: a server is found running or not, a start, the work or the end of a server is
over. A caller that waits for the start of somebody else looks again later.

A caller who finds the server of the client gone drops the client, and one whose work fails because
the server is gone clears the slot, has the client that was there stopped and tries once more. Both
empty the slot whatever it holds.
-/

namespace OutlineNav

namespace Caller

inductive Stage (γ : Type) where
  | looking
  | checking (client : γ)
  | dropping
  | waiting
  | claiming
  | starting
  | working (client : γ)
  | clearing
  | stopping (client : γ)
  | finished
  deriving DecidableEq, Repr

/-- Nothing can be done until something has come about outside. -/
def Stage.pauses {γ : Type} : Stage γ → Bool
  | .waiting | .starting | .working _ | .finished => true
  | _ => false

/-- What has come about outside. -/
inductive News (γ : Type) where
  | nothing
  | running (still : Bool)
  /-- A start is over, and there is a client if it succeeded. -/
  | started (client? : Option γ)
  /-- The work is over, perhaps because the server is gone. -/
  | worked (gone : Bool)
  | stopped
  deriving DecidableEq, Repr

end Caller

structure Caller (γ : Type) where
  language : Language
  /-- The client is wanted for work. -/
  works : Bool
  /-- The second try has begun. -/
  restarted : Bool
  stage : Caller.Stage γ
  deriving DecidableEq, Repr

namespace Caller

variable {γ : Type}

def new (language : Language) (works : Bool) : Caller γ := ⟨language, works, false, .looking⟩

/-- The caller has got a client. -/
def reach (c : Caller γ) (client : γ) : Caller γ :=
  { c with stage := if c.works then .working client else .finished }

/-- The next step of a caller; without the news that its stage is about it stays where it is. -/
def advance (c : Caller γ) (news : News γ) (slots : Slots γ) : Caller γ × Slots γ :=
  match c.stage, news with
  | .looking, _ =>
    match slots.get? c.language with
    | some (.ready client) => ({ c with stage := .checking client }, slots)
    | some .claimed => ({ c with stage := .waiting }, slots)
    | none => ({ c with stage := .claiming }, slots)
  | .checking client, .running still =>
    (if still then c.reach client else { c with stage := .dropping }, slots)
  | .dropping, _ => ({ c with stage := .looking }, (slots.clear c.language).2)
  | .waiting, _ => ({ c with stage := .looking }, slots)
  | .claiming, _ =>
    let (mine, slots) := slots.claim c.language
    ({ c with stage := if mine then .starting else .looking }, slots)
  | .starting, .started client? =>
    (client?.elim { c with stage := .finished } c.reach, slots.finish c.language client?)
  | .working _, .worked gone =>
    if gone && !c.restarted then ({ c with restarted := true, stage := .clearing }, slots)
    else ({ c with stage := .finished }, slots)
  | .clearing, _ =>
    let (client?, slots) := slots.clear c.language
    ({ c with stage := client?.elim .looking .stopping }, slots)
  | .stopping _, .stopped => ({ c with stage := .looking }, slots)
  | _, _ => (c, slots)

end Caller

end OutlineNav
