import OutlineNav.Text.Digit

/-!
# Dates and times

Dates, times of day and their combinations as configuration files write them, and their one
canonical text: a `T` between date and time, and no zeros at the end of a fraction of a second.
-/

namespace OutlineNav.Toml

open Text (digit?)

structure Date where
  year : Nat
  month : Nat
  day : Nat
  deriving DecidableEq, Repr

structure TimeOfDay where
  hour : Nat
  minute : Nat
  second : Nat
  nanosecond : Nat
  deriving DecidableEq, Repr

/-- How far local time is from universal time. -/
inductive Offset where
  | universal
  | ahead (minutes : Int)
  deriving DecidableEq, Repr

inductive DateTime where
  | day (date : Date)
  | clock (time : TimeOfDay)
  | moment (date : Date) (time : TimeOfDay) (offset : Option Offset)
  deriving DecidableEq, Repr

/-! ## Reading -/

/-- A number of exactly `count` more digits at the start of a text, of which those read so far are
worth `value`, and what follows it. -/
def fixedDigits? : (count : Nat) → (value : Nat) → List Char → Option (Nat × List Char)
  | 0, value, cs => some (value, cs)
  | _ + 1, _, [] => none
  | count + 1, value, c :: rest =>
    match digit? c with
    | some d => fixedDigits? count (value * 10 + d) rest
    | none => none

/-- A number of two digits from `low` to `high`. -/
def twoDigits? (low high : Nat) (cs : List Char) : Option (Nat × List Char) := do
  let (n, rest) ← fixedDigits? 2 0 cs
  if low ≤ n ∧ n ≤ high then some (n, rest) else none

/-- What follows a given character. -/
def behind? (c : Char) : List Char → Option (List Char)
  | d :: rest => if d = c then some rest else none
  | [] => none

def isLeapYear (year : Nat) : Bool :=
  year % 4 = 0 && (year % 100 ≠ 0 || year % 400 = 0)

def daysIn (year month : Nat) : Nat :=
  if month = 2 then if isLeapYear year then 29 else 28
  else if month = 4 ∨ month = 6 ∨ month = 9 ∨ month = 11 then 30
  else 31

def Date.read? (cs : List Char) : Option (Date × List Char) := do
  let (year, rest) ← fixedDigits? 4 0 cs
  let (month, rest) ← twoDigits? 1 12 (← behind? '-' rest)
  let (day, rest) ← twoDigits? 1 (daysIn year month) (← behind? '-' rest)
  return (⟨year, month, day⟩, rest)

/-- The nanoseconds that the digits of a fraction of a second are worth; digits after the ninth are
dropped. -/
def nanoseconds (digits : List Nat) : Nat :=
  ((digits ++ List.replicate 9 0).take 9).foldl (fun n d => n * 10 + d) 0

def leadingDigits : List Char → List Nat × List Char
  | [] => ([], [])
  | c :: rest =>
    match digit? c with
    | some d =>
      let (ds, rest) := leadingDigits rest
      (d :: ds, rest)
    | none => ([], c :: rest)

def readFraction : List Char → Nat × List Char
  | '.' :: rest =>
    match leadingDigits rest with
    | ([], _) => (0, '.' :: rest)
    | (digits, rest) => (nanoseconds digits, rest)
  | rest => (0, rest)

/-- A second numbered sixty is a leap second. -/
def TimeOfDay.read? (cs : List Char) : Option (TimeOfDay × List Char) := do
  let (hour, rest) ← twoDigits? 0 23 cs
  let (minute, rest) ← twoDigits? 0 59 (← behind? ':' rest)
  let (second, rest) ← twoDigits? 0 60 (← behind? ':' rest)
  let (nanosecond, rest) := readFraction rest
  return (⟨hour, minute, second, nanosecond⟩, rest)

/-- The offset that a text writes, as a whole. -/
def Offset.parse? : List Char → Option Offset
  | ['Z'] | ['z'] => some .universal
  | '+' :: rest => (distance? rest).map fun n => .ahead n
  | '-' :: rest => (distance? rest).map fun n => .ahead (-n)
  | _ => none
where
  distance? (cs : List Char) : Option Int := do
    let (hours, rest) ← twoDigits? 0 23 cs
    let (minutes, rest) ← twoDigits? 0 59 (← behind? ':' rest)
    if rest.isEmpty then some (hours * 60 + minutes : Nat) else none

/-- The date, the time or both that a text writes, as a whole. -/
def DateTime.parse? (cs : List Char) : Option DateTime :=
  match Date.read? cs with
  | some (date, []) => some (.day date)
  | some (date, c :: rest) =>
    if c = 'T' ∨ c = 't' ∨ c = ' ' then
      match TimeOfDay.read? rest with
      | some (time, []) => some (.moment date time none)
      | some (time, rest) => (Offset.parse? rest).map fun o => .moment date time (some o)
      | none => none
    else none
  | none =>
    match TimeOfDay.read? cs with
    | some (time, []) => some (.clock time)
    | _ => none

/-! ## Text -/

/-- A number filled up with zeros to `width` digits. -/
def padded (width n : Nat) : String :=
  let digits := Nat.toDigits 10 n
  String.ofList (List.replicate (width - digits.length) '0' ++ digits)

def Date.text (d : Date) : String := s!"{padded 4 d.year}-{padded 2 d.month}-{padded 2 d.day}"

def TimeOfDay.text (t : TimeOfDay) : String :=
  let fraction := (padded 9 t.nanosecond).toList.reverse.dropWhile (· == '0')
  s!"{padded 2 t.hour}:{padded 2 t.minute}:{padded 2 t.second}" ++
    if fraction.isEmpty then "" else "." ++ String.ofList fraction.reverse

def Offset.text : Offset → String
  | .universal => "Z"
  | .ahead minutes =>
    let sign := if minutes < 0 then "-" else "+"
    s!"{sign}{padded 2 (minutes.natAbs / 60)}:{padded 2 (minutes.natAbs % 60)}"

def DateTime.text : DateTime → String
  | .day d => d.text
  | .clock t => t.text
  | .moment d t o => s!"{d.text}T{t.text}" ++ (o.map Offset.text).getD ""

end OutlineNav.Toml
