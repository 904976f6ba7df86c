import OutlineNav.Json.Decode

/-!
# Positions, ranges and selections

Places in a document. A `Position` counts lines and characters from zero and is ordered by line
first; a `Range` has a start and an end, neither of which is checked to come first; a `Selection`
has a fixed end, the anchor, and the end that carries the caret.

`Position.rank` numbers the positions in their order, so that facts about the order are facts about
natural numbers.
-/

namespace OutlineNav

/-! ## Positions -/

structure Position where
  line : UInt32
  character : UInt32
  deriving DecidableEq, Inhabited, Repr

namespace Position

/-- The largest number of a line or character. -/
def maxWord : UInt32 := 0xFFFFFFFF

def origin : Position := ⟨0, 0⟩

/-- Positions are ordered by line, then by character. -/
instance : LT Position :=
  ⟨fun a b => a.line < b.line ∨ a.line = b.line ∧ a.character < b.character⟩

instance : LE Position :=
  ⟨fun a b => a.line < b.line ∨ a.line = b.line ∧ a.character ≤ b.character⟩

instance (a b : Position) : Decidable (a < b) :=
  inferInstanceAs (Decidable (a.line < b.line ∨ a.line = b.line ∧ a.character < b.character))

instance (a b : Position) : Decidable (a ≤ b) :=
  inferInstanceAs (Decidable (a.line < b.line ∨ a.line = b.line ∧ a.character ≤ b.character))

/-- The number of the position in the order. -/
def rank (p : Position) : Nat := p.line.toNat * UInt32.size + p.character.toNat

theorem lt_iff_rank {a b : Position} : a < b ↔ a.rank < b.rank := by
  change a.line < b.line ∨ a.line = b.line ∧ a.character < b.character ↔ _
  rw [UInt32.lt_iff_toNat_lt, UInt32.lt_iff_toNat_lt, ← UInt32.toNat_inj]
  have := a.character.toNat_lt
  have := b.character.toNat_lt
  unfold rank UInt32.size
  omega

theorem le_iff_rank {a b : Position} : a ≤ b ↔ a.rank ≤ b.rank := by
  change a.line < b.line ∨ a.line = b.line ∧ a.character ≤ b.character ↔ _
  rw [UInt32.lt_iff_toNat_lt, UInt32.le_iff_toNat_le, ← UInt32.toNat_inj]
  have := a.character.toNat_lt
  have := b.character.toNat_lt
  unfold rank UInt32.size
  omega

theorem rank_inj {a b : Position} (h : a.rank = b.rank) : a = b := by
  obtain ⟨la, ca⟩ := a
  obtain ⟨lb, cb⟩ := b
  have := ca.toNat_lt
  have := cb.toNat_lt
  simp only [rank, UInt32.size] at h
  rw [Position.mk.injEq, ← UInt32.toNat_inj, ← UInt32.toNat_inj]
  constructor <;> omega

protected def min (a b : Position) : Position := if a ≤ b then a else b

protected def max (a b : Position) : Position := if a ≤ b then b else a

def compare (a b : Position) : Ordering :=
  if a < b then .lt else if a = b then .eq else .gt

/-- One less, but not below zero. -/
def predWord (n : UInt32) : UInt32 := if n = 0 then 0 else n - 1

/-- The position that a reader who counts from one calls `line` and `column`. -/
def ofDisplay (line column : UInt32) : Position := ⟨predWord line, predWord column⟩

/-- Line and column counted from one. -/
def toDisplay (p : Position) : UInt32 × UInt32 := (p.line + 1, p.character + 1)

end Position

/-! ## Ranges -/

structure Range where
  start : Position
  stop : Position
  deriving DecidableEq, Inhabited, Repr

namespace Range

/-- The range between two positions given in either order. -/
def ofCoords (line₁ char₁ line₂ char₂ : UInt32) : Range :=
  let a : Position := ⟨line₁, char₁⟩
  let b : Position := ⟨line₂, char₂⟩
  if a ≤ b then ⟨a, b⟩ else ⟨b, a⟩

def point (p : Position) : Range := ⟨p, p⟩

def isSingleLine (r : Range) : Bool := r.start.line == r.stop.line

/-- Both ends belong to the range. -/
def contains (r : Range) (p : Position) : Bool := r.start ≤ p && p ≤ r.stop

/-- Equal ranges contain each other. -/
def containsRange (r other : Range) : Bool := r.start ≤ other.start && other.stop ≤ r.stop

/-- Containment of a different range. -/
def strictlyContains (r other : Range) : Bool := r != other && r.containsRange other

/-- The ranges overlap or touch. -/
def intersects (r other : Range) : Bool := r.start ≤ other.stop && other.start ≤ r.stop

end Range

/-! ## Selections -/

structure Selection where
  anchor : Position
  active : Position
  deriving DecidableEq, Inhabited, Repr

namespace Selection

def caret (p : Position) : Selection := ⟨p, p⟩

def start (s : Selection) : Position := s.anchor.min s.active

def stop (s : Selection) : Position := s.anchor.max s.active

def range (s : Selection) : Range := ⟨s.start, s.stop⟩

def isEmpty (s : Selection) : Bool := s.anchor == s.active

end Selection

/-! ## JSON form -/

open Json (Decoder DecodeError)
open Json.Decoder

def Position.toJson (p : Position) : Json :=
  .obj [("character", .word p.character), ("line", .word p.line)]

def Position.decode : Decoder Position :=
  record "Position"
    (fun ms => do
      let character ← member? u32 "character" ms
      let line ← member? u32 "line" ms
      return ⟨← required "line" line, ← required "character" character⟩)
    (fun vs => do
      let line ← item u32 "Position" 2 0 vs
      let character ← item u32 "Position" 2 1 vs
      noMore 2 vs
      return ⟨line, character⟩)

def Range.toJson (r : Range) : Json :=
  .obj [("end", r.stop.toJson), ("start", r.start.toJson)]

def Range.decode : Decoder Range :=
  record "Range"
    (fun ms => do
      let stop ← member? Position.decode "end" ms
      let start ← member? Position.decode "start" ms
      return ⟨← required "start" start, ← required "end" stop⟩)
    (fun vs => do
      let start ← item Position.decode "Range" 2 0 vs
      let stop ← item Position.decode "Range" 2 1 vs
      noMore 2 vs
      return ⟨start, stop⟩)

def Selection.toJson (s : Selection) : Json :=
  .obj [("active", s.active.toJson), ("anchor", s.anchor.toJson)]

end OutlineNav
