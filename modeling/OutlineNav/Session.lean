import OutlineNav.Outline.Basic

/-!
# Navigation memory of a document

A move to the parent stages, for every cursor, the symbol it left, so that the following move to the
child brings each cursor back there instead of to the first child. The staged frames form a stack. A
session also remembers the selections that the last move produced and the ranges it highlighted: a
change to those very selections is the move's own echo and keeps both, any other change forgets
everything.
-/

namespace OutlineNav

/-- What is to happen with the highlights after a change of the selections. -/
inductive HighlightUpdate where
  /-- The change is the echo of a move; its highlights stay. -/
  | reapply (ranges : List Range)
  | clear
  deriving DecidableEq, Repr

/-- What one move to the parent staged: for each selection the symbol to return to, if any. -/
abbrev ReturnFrame := List (Option SymbolPath)

structure Session where
  /-- The staged frames, the latest in front. -/
  returns : List ReturnFrame
  lastSelections : Option (List Selection)
  highlights : List Range
  deriving DecidableEq, Inhabited, Repr

namespace Session

def idle : Session := ⟨[], none, []⟩

def isArmed (s : Session) : Bool := !s.returns.isEmpty

/-- Stages a frame; one without any symbol to return to is dropped. -/
def record (s : Session) (frame : ReturnFrame) : Session :=
  if frame.all (·.isNone) then s else { s with returns := frame :: s.returns }

/-- Takes the latest frame off the stack. -/
def take (s : Session) : Option ReturnFrame × Session :=
  match s.returns with
  | [] => (none, s)
  | frame :: rest => (some frame, { s with returns := rest })

def discard (s : Session) : Session := { s with returns := [] }

/-- Judges a change of the selections. -/
def selectionChanged (s : Session) (selections : List Selection) : HighlightUpdate × Session :=
  if s.lastSelections = some selections then (.reapply s.highlights, s) else (.clear, idle)

end Session

end OutlineNav
