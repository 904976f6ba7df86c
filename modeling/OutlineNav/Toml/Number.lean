import OutlineNav.Toml.Basic

/-!
# Numbers and words in configuration files

A value without quotes and brackets is a single run of characters: a truth value, a number, a date
or a time. Underscores may stand between two digits. Integers have sixty-four bits with sign, and a
floating-point number must not be too large.
-/

namespace OutlineNav.Toml

open Text (digit? hexDigit?)

/-! ## Digits -/

/-- The values of digits with single underscores between them; `any` tells that a digit came right
before. -/
def digitsFrom (value? : Char → Option Nat) (any : Bool) : List Char → Option (List Nat)
  | [] => if any then some [] else none
  | '_' :: rest => if any then digitsFrom value? false rest else none
  | c :: rest => do
    let d ← value? c
    return d :: (← digitsFrom value? true rest)

/-- The values of the digits that a text consists of, at least one. -/
def digits? (value? : Char → Option Nat) (cs : List Char) : Option (List Nat) :=
  digitsFrom value? false cs

def ofDigits (base : Nat) (digits : List Nat) : Nat := digits.foldl (fun n d => n * base + d) 0

/-- Decimal digits without a needless leading zero. -/
def plainDigits? (cs : List Char) : Option (List Nat) :=
  match digits? digit? cs, cs with
  | some [0], ['0'] => some [0]
  | some (0 :: _), _ => none
  | ds?, _ => ds?

/-- The sign of a number, and what follows it. -/
def splitSign : List Char → Bool × List Char
  | '-' :: rest => (true, rest)
  | '+' :: rest => (false, rest)
  | cs => (false, cs)

/-! ## Integers -/

def digitBelow? (base : Nat) (c : Char) : Option Nat := (hexDigit? c).filter (· < base)

/-- A number in another base than ten has no sign. -/
def based? (base : Nat) (cs : List Char) : Option Int := do
  let n := ofDigits base (← digits? (digitBelow? base) cs)
  if n < integerLimit then some n else none

def integer? : List Char → Option Int
  | '0' :: 'x' :: rest => based? 16 rest
  | '0' :: 'o' :: rest => based? 8 rest
  | '0' :: 'b' :: rest => based? 2 rest
  | cs => do
    let (negative, rest) := splitSign cs
    let n := ofDigits 10 (← plainDigits? rest)
    if negative then if n ≤ integerLimit then some (-n) else none
    else if n < integerLimit then some n else none

/-! ## Floating-point numbers -/

/-- The text in front of the first character with a property, and the text from there on. -/
def splitAt (p : Char → Bool) (cs : List Char) : List Char × List Char :=
  (cs.takeWhile (!p ·), cs.dropWhile (!p ·))

def exponent? : List Char → Option (Option Int)
  | [] => some none
  | _ :: rest => do
    let (negative, rest) := splitSign rest
    let n := ofDigits 10 (← digits? digit? rest)
    return some (if negative then -n else n)

/-- The digits behind the point, if there is any. -/
def fraction? : List Char → Option (Option (List Nat))
  | [] => some none
  | _ :: rest => (digits? digit? rest).map some

def infinity : Float := 1.0 / 0.0

/-- The value of `digits · 10 ^ exponent`. -/
def scaled (digits : List Nat) (exponent : Int) : Float :=
  let significand := ofDigits 10 digits
  if significand = 0 ∨ exponent + digits.length < -400 then 0.0
  else if exponent > 400 then infinity
  else Float.ofScientific significand (exponent < 0) exponent.natAbs

def float? (cs : List Char) : Option Double := do
  let (negative, rest) := splitSign cs
  let signed (x : Float) : Double := .ofFloat (if negative then -x else x)
  if rest = ['i', 'n', 'f'] then some (signed infinity)
  else if rest = ['n', 'a', 'n'] then some (signed (0.0 / 0.0))
  else
    let (mantissa, tail) := splitAt (fun c => c == 'e' || c == 'E') rest
    let (whole, tail') := splitAt (· == '.') mantissa
    let whole ← plainDigits? whole
    let fraction ← fraction? tail'
    let exponent ← exponent? tail
    if fraction.isNone && exponent.isNone then none
    else
      let digits := whole ++ fraction.getD []
      let x := signed (scaled digits (exponent.getD 0 - (fraction.getD []).length))
      if x = .ofFloat infinity then none else some x

/-! ## All runs -/

/-- The value that a run of characters writes. -/
def plain? (cs : List Char) : Option Toml :=
  if cs = ['t', 'r', 'u', 'e'] then some (.boolean true)
  else if cs = ['f', 'a', 'l', 's', 'e'] then some (.boolean false)
  else
    ((DateTime.parse? cs).map .dateTime).orElse fun _ =>
    ((float? cs).map .float).orElse fun _ =>
    (integer? cs).map .integer

end OutlineNav.Toml
