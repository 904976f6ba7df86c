import OutlineNav.Geometry
import OutlineNav.Text.Blank
import OutlineNav.Text.Unsigned

/-!
# Locations on the command line

A location is written `file:line` or `file:line:column`, a caret `line` or `line:column`, and a
selection as two carets with two points between them. Lines and columns count from one.

The file ends at the first colon in front of a digit, where the colon of a drive letter does not
count. A minus sign there is reported instead of being taken for a part of the file.
-/

namespace OutlineNav

inductive LocationError where
  | empty
  | noPosition
  | negativeLine
  | invalidLine (text : String)
  | invalidColumn (text : String)
  | zeroLine
  | zeroColumn
  | fileNotFound (path : String)
  deriving DecidableEq, Repr

def LocationError.message : LocationError → String
  | .empty => "Location cannot be empty"
  | .noPosition =>
    "Invalid location format. Expected: file:line[:column]\nExample: src/main.rs:10:5"
  | .negativeLine =>
    "Invalid line number: negative values not allowed. " ++
      "Line numbers are 1-indexed positive integers.\nExample: src/main.rs:10:5"
  | .invalidLine s => s!"Invalid line number '{s}': must be a positive integer (1-indexed)"
  | .invalidColumn s => s!"Invalid column number '{s}': must be a positive integer (1-indexed)"
  | .zeroLine => "Line number must be >= 1 (got 0). Line numbers are 1-indexed."
  | .zeroColumn => "Column number must be >= 1 (got 0). Column numbers are 1-indexed."
  | .fileNotFound path => s!"File not found: {path}"

/-! ## Lines and columns -/

/-- A line and a column, counted from one. -/
structure LineColumn where
  line : UInt32
  column : UInt32
  deriving DecidableEq, Inhabited, Repr

namespace LineColumn

def position (p : LineColumn) : Position := .ofDisplay p.line p.column

def ofPosition (p : Position) : LineColumn := ⟨p.toDisplay.1, p.toDisplay.2⟩

def text (p : LineColumn) : String := s!"{p.line}:{p.column}"

/-- The text in front of the first colon and, if there is one, the text behind it. -/
def splitColon (cs : List Char) : List Char × Option (List Char) :=
  match cs.dropWhile (· != ':') with
  | [] => (cs, none)
  | _ :: rest => (cs.takeWhile (· != ':'), some rest)

/-- Reads `line` or `line:column`; an absent column is the first. -/
def parse (cs : List Char) : Except LocationError LineColumn := do
  let (lineText, columnText?) := splitColon cs
  let line ← (Text.unsigned32 lineText).mapError fun _ => .invalidLine (String.ofList lineText)
  let column ← match columnText? with
    | some columnText =>
      (Text.unsigned32 columnText).mapError fun _ => .invalidColumn (String.ofList columnText)
    | none => .ok 1
  if line = 0 then .error .zeroLine
  else if column = 0 then .error .zeroColumn
  else .ok ⟨line, column⟩

end LineColumn

/-! ## Carets and selections -/

def parsePosition (cs : List Char) : Except LocationError Position :=
  (LineColumn.parse (Text.trimEndChars (Text.trimStartChars cs))).map LineColumn.position

/-- The texts around the first two points in a row. -/
def splitPoints? : List Char → Option (List Char × List Char)
  | [] => none
  | '.' :: '.' :: rest => some ([], rest)
  | c :: rest => (splitPoints? rest).map fun (before, after) => (c :: before, after)

def parseSelection (cs : List Char) : Except LocationError Selection :=
  match splitPoints? cs with
  | some (anchor, active) => return ⟨← parsePosition anchor, ← parsePosition active⟩
  | none => (parsePosition cs).map .caret

/-! ## Locations -/

structure Location where
  file : String
  place : LineColumn
  deriving DecidableEq, Inhabited, Repr

namespace Location

def text (l : Location) : String := s!"{l.file}:{l.place.text}"

def position (l : Location) : Position := l.place.position

def isDigit (c : Char) : Bool := '0' ≤ c && c ≤ '9'

/-- A text split at the first colon in front of a digit or a minus sign, which the flag tells. -/
def splitPlace? : List Char → Option (List Char × List Char × Bool)
  | [] => none
  | c :: rest =>
    let later := (splitPlace? rest).map fun (before, after, negative) =>
      (c :: before, after, negative)
    if c = ':' then
      match rest with
      | d :: _ =>
        if isDigit d then some ([], rest, false) else if d = '-' then some ([], rest, true)
        else later
      | [] => later
    else later

/-- A drive letter and its colon, and the text behind them. -/
def splitDrive : List Char → List Char × List Char
  | letter :: ':' :: c :: rest => if letter.isAlpha then ([letter, ':'], c :: rest)
    else ([], letter :: ':' :: c :: rest)
  | cs => ([], cs)

def parse (input : String) : Except LocationError Location :=
  match Text.trimEndChars (Text.trimStartChars input.toList) with
  | [] => .error .empty
  | c :: cs =>
    let (drive, rest) := splitDrive (c :: cs)
    match splitPlace? rest with
    | none => .error .noPosition
    | some (_, _, true) => .error .negativeLine
    | some (file, place, false) => do
      let place ← LineColumn.parse place
      return ⟨String.ofList (drive ++ file), place⟩

end Location

end OutlineNav
