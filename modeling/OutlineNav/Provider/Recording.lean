import OutlineNav.Document.Files
import OutlineNav.Json.Parser
import OutlineNav.Provider.Basic
import OutlineNav.Provider.Results

/-!
# Recordings

A recording is a file with a result of the request for symbols, or with an object that holds such a
result and folding ranges. It is read anew for every question and answers for every document.
-/

namespace OutlineNav

open Json (Decoder DecodeError)

structure Recording where
  /-- The result of a request for symbols. -/
  symbols : Json
  folds : List WireFold
  deriving DecidableEq, Repr

namespace Recording

def decode : Decoder Recording
  | .obj members =>
    match Named.lookup? "symbols" members with
    | some symbols => do
      let folds ← Decoder.member? (Decoder.list WireFold.decode) "foldingRanges" members
      return ⟨symbols, folds.getD []⟩
    | none => .ok ⟨.obj members, []⟩
  | v => .ok ⟨v, []⟩

/-- The failure to understand the file at `path`. -/
def invalid (path problem : String) : ServiceError :=
  .protocol s!"Invalid outline file {path}: {problem}"

/-- The recording that a text writes, where `path` tells whose text it is. -/
def parse (path text : String) : Except ServiceError Recording :=
  match Json.parse text.toList with
  | .error e => .error (invalid path (e.message text.toList))
  | .ok v => (decode v).mapError fun e => invalid path e.message

variable {m : Type → Type} [Monad m]

def load (files : Files m) (path : String) : m (Except ServiceError Recording) := do
  match ← files.readText path with
  | .ok text => return parse path text
  | .error e => return .error (.file e)

def provider (files : Files m) (path : String) : Provider m where
  symbols _ := do return (← load files path).bind fun r => decodeSymbols r.symbols
  folds _ := do return (← load files path).map fun r => r.folds.map WireFold.foldRange
  close _ := pure ()
  shutdown := pure ()

end Recording

end OutlineNav
