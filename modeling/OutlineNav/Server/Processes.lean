import OutlineNav.Error
import OutlineNav.Server.Timeout

/-!
# Processes

What the program asks of the processes of language servers, as operations of some monad. A running
process is known by a handle.
-/

namespace OutlineNav.Server

/-- What arrived from a process while it was listened to. -/
structure Arrival where
  bytes : List UInt8
  /-- Nothing more will arrive. -/
  ended : Bool
  /-- How long was listened. -/
  elapsed : Duration
  deriving DecidableEq, Repr

structure Processes (m : Type → Type) (κ : Type) where
  /-- The number of this program's own process. -/
  ownNumber : m UInt32
  /-- A command can be found. -/
  installed : (command : String) → m Bool
  spawn : (folder command : String) → (arguments : List String) → m (Except FileError κ)
  write : κ → List UInt8 → m (Except FileError Unit)
  /-- Listens until something arrives or the time is over. -/
  read : κ → (patience : Duration) → m Arrival
  closeInput : κ → m Unit
  isRunning : κ → m Bool
  /-- Waits until the process has ended, and ends it if that takes too long. Tells how long it
  took. -/
  stop : κ → m Duration

/-- Where no command can be found, and so nothing runs. -/
def Processes.absent {m : Type → Type} [Monad m] : Processes m Empty where
  ownNumber := pure 0
  installed _ := pure false
  spawn _ _ _ := pure (.error .notFound)
  write := nofun
  read := nofun
  closeInput := nofun
  isRunning := nofun
  stop := nofun

end OutlineNav.Server
