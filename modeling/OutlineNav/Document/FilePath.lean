/-!
# File paths

A path is a text of segments between slashes. Empty segments and segments of a single point carry
no meaning, except for a point at the very start. This module takes paths apart: their parts, the
name and extension of the file, and the text that is left when the parts of a prefix are removed.
-/

namespace OutlineNav.FilePath

/-- A meaningful part of a path. -/
inductive Part where
  | root
  | here
  | up
  | name (segment : List Char)
  deriving DecidableEq, Repr

/-! ## Segments -/

def isSeparator (c : Char) : Bool := c == '/'

/-- The text up to the first separator. -/
def segment (cs : List Char) : List Char := cs.takeWhile (!isSeparator ·)

def afterSegment (cs : List Char) : List Char := (cs.dropWhile (!isSeparator ·)).drop 1

theorem length_afterSegment_lt {c : Char} {rest : List Char} :
    (afterSegment (c :: rest)).length < (c :: rest).length := by
  have := (List.dropWhile_sublist (!isSeparator ·) (l := c :: rest)).length_le
  by_cases h : isSeparator c
  · simp [afterSegment, h]
  · simp only [afterSegment, h, Bool.not_false, List.dropWhile_cons_of_pos, List.length_drop,
      List.length_cons] at this ⊢
    have := (List.dropWhile_sublist (!isSeparator ·) (l := rest)).length_le
    omega

/-- The segments of a path, those without meaning included. -/
def segments : List Char → List (List Char)
  | [] => [[]]
  | c :: rest =>
    match isSeparator c, segments rest with
    | true, segs => [] :: segs
    | false, seg :: segs => (c :: seg) :: segs
    | false, [] => [[c]]

/-- The part that a segment stands for, if any. -/
def segmentPart? (seg : List Char) : Option Part :=
  if seg = [] ∨ seg = ['.'] then none else if seg = ['.', '.'] then some .up else some (.name seg)

/-- The first part of a text behind the start of a path, with the text behind it. -/
def nextPart? (cs : List Char) : Option (Part × List Char) :=
  match cs with
  | [] => none
  | c :: rest =>
    match segmentPart? (segment (c :: rest)) with
    | some p => some (p, afterSegment (c :: rest))
    | none => nextPart? (afterSegment (c :: rest))
termination_by cs.length
decreasing_by exact length_afterSegment_lt

theorem length_of_nextPart? {cs rest : List Char} {p : Part} (h : nextPart? cs = some (p, rest)) :
    rest.length < cs.length := by
  fun_induction nextPart? cs with
  | case1 => simp at h
  | case2 c cs p' _ =>
    simp only [Option.some.injEq, Prod.mk.injEq] at h
    rw [← h.2]
    exact length_afterSegment_lt
  | case3 c cs _ ih => exact Nat.lt_trans (ih h) length_afterSegment_lt

/-! ## Parts -/

def isAbsolute (cs : List Char) : Bool := cs.head?.any isSeparator

/-- The part that only the start of a path can be. -/
def startPart? (cs : List Char) : Option Part :=
  if isAbsolute cs then some .root else if segment cs = ['.'] then some .here else none

/-- A place inside a path: at its start or behind it, and the text ahead. -/
structure Cursor where
  atStart : Bool
  ahead : List Char
  deriving DecidableEq, Repr

def Cursor.ofPath (cs : List Char) : Cursor := ⟨true, cs⟩

def Cursor.next? (c : Cursor) : Option (Part × Cursor) :=
  match (if c.atStart then startPart? c.ahead else none) with
  | some p => some (p, ⟨false, c.ahead.drop 1⟩)
  | none => (nextPart? c.ahead).map fun (p, rest) => (p, ⟨false, rest⟩)

/-- The parts of the text ahead that is no start. -/
def bodyParts (cs : List Char) : List Part :=
  match h : nextPart? cs with
  | some (p, rest) =>
    have := length_of_nextPart? h
    p :: bodyParts rest
  | none => []
termination_by cs.length

def parts (cs : List Char) : List Part :=
  match startPart? cs with
  | some p => p :: bodyParts (cs.drop 1)
  | none => bodyParts cs

/-! ## File names -/

def fileName? (cs : List Char) : Option (List Char) :=
  match (parts cs).getLast? with
  | some (.name seg) => some seg
  | _ => none

/-- What stands behind the last point of the file name, unless the point is its first character. -/
def extension? (cs : List Char) : Option (List Char) :=
  (fileName? cs).bind fun name =>
    match (name.reverse.dropWhile (· != '.')).drop 1 with
    | [] => none
    | _ => some (name.reverse.takeWhile (· != '.')).reverse

/-! ## Joining and stripping -/

/-- `path` as seen from the directory `base`. -/
def join (base path : List Char) : List Char :=
  if isAbsolute path then path
  else if base.getLast?.any (!isSeparator ·) then base ++ '/' :: path
  else base ++ path

/-- Removes segments without meaning in front. -/
def trimFront (cs : List Char) : List Char :=
  match cs with
  | [] => []
  | c :: rest =>
    match segmentPart? (segment (c :: rest)) with
    | some _ => c :: rest
    | none => trimFront (afterSegment (c :: rest))
termination_by cs.length
decreasing_by exact length_afterSegment_lt

/-- Removes segments without meaning at the end of a reversed text, down to `keep` characters, the
ones that make up the start of a path. -/
def trimBack (keep : Nat) : (fuel : Nat) → (reversed : List Char) → List Char
  | 0, reversed => reversed
  | fuel + 1, reversed =>
    if reversed.length ≤ keep then reversed
    else
      let body := reversed.take (reversed.length - keep)
      let seg := segment body
      match segmentPart? seg.reverse with
      | some _ => reversed
      | none =>
        let size := if seg.length < body.length then seg.length + 1 else seg.length
        trimBack keep fuel (reversed.drop size)

/-- The text ahead without segments that carry no meaning at its ends. -/
def Cursor.text (c : Cursor) : List Char :=
  let front := if c.atStart then c.ahead else trimFront c.ahead
  let keep := if c.atStart ∧ (startPart? c.ahead).isSome then 1 else 0
  (trimBack keep front.length front.reverse).reverse

/-- Moves past the parts of a prefix. -/
def Cursor.passParts? : List Part → Cursor → Option Cursor
  | [], c => some c
  | p :: rest, c =>
    match c.next? with
    | some (q, c') => if p = q then Cursor.passParts? rest c' else none
    | none => none

/-- The path as seen from the directory `root`, if it lies there. -/
def strip? (root path : List Char) : Option (List Char) :=
  (Cursor.passParts? (parts root) (.ofPath path)).map Cursor.text

def joinText (base path : String) : String := String.ofList (join base.toList path.toList)

/-- The path as seen from the directory `root`, or as it is. -/
def relative (root path : String) : String :=
  ((strip? root.toList path.toList).map String.ofList).getD path

end OutlineNav.FilePath
