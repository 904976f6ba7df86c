/-!
# Binary floating point as decimal text

A `Double` is the sixty-four bits of an IEEE 754 binary64 value, kept as bits so that equality is
decidable and nothing is lost on the way through. Two directions are here:

* `shortest`: the decimal with the fewest digits that still reads back as the same value, the
  nearest one if there are several. It is found by exact natural-number arithmetic on the interval
  of reals that round to the value.
* `ofParts?`: the value of `significand · 10 ^ exponent`, computed as one correctly rounded
  conversion and one multiplication or division by a power of ten.

`Double.text` writes the shortest decimal positionally while the point falls inside or near the
digits, and with an exponent otherwise.
-/

namespace OutlineNav

/-- A binary64 value, as its bits. -/
structure Double where
  bits : UInt64
  deriving DecidableEq, Inhabited, Repr

namespace Double

/-! ## Reading the bits -/

def ofFloat (x : Float) : Double := ⟨x.toBits⟩

def signUnit : Nat := 0x8000000000000000

/-- How many fractions there are: the fraction has fifty-two bits. -/
def fractionSize : Nat := 0x10000000000000

def isNegative (d : Double) : Bool := d.bits.toNat / signUnit == 1

def biasedExponent (d : Double) : Nat := d.bits.toNat / fractionSize % 2048

def fraction (d : Double) : Nat := d.bits.toNat % fractionSize

/-- Neither infinite nor a NaN. -/
def isFinite (d : Double) : Bool := d.biasedExponent != 2047

/-- The integer `m` of the magnitude `m · 2 ^ q`. -/
def mantissa (d : Double) : Nat :=
  if d.biasedExponent = 0 then d.fraction else fractionSize + d.fraction

/-- The exponent `q` of the magnitude `m · 2 ^ q`. -/
def exponent (d : Double) : Int :=
  if d.biasedExponent = 0 then -1074 else (d.biasedExponent : Int) - 1075

/-! ## Shortest decimal -/

/-- A decimal `digits · 10 ^ exponent`. -/
structure Decimal where
  digits : Nat
  exponent : Int
  deriving DecidableEq, Repr

/-- The reals that round to a value, and the value itself, as numerators over `2 ^ shift`; the ends
belong to the interval iff `closed`. -/
structure Interval where
  low : Nat
  value : Nat
  high : Nat
  shift : Nat
  closed : Bool

/-- Numerators are quarters of a unit in the last place: the lower neighbour of a power of two is
only half as far away. -/
def interval (d : Double) : Interval :=
  let m := d.mantissa
  let q := d.exponent - 2
  let scale := Nat.pow 2 q.toNat
  let below := if d.fraction = 0 && d.biasedExponent > 1 then 1 else 2
  { low := (4 * m - below) * scale
    value := 4 * m * scale
    high := (4 * m + 2) * scale
    shift := (-q).toNat
    closed := m % 2 == 0 }

/-- The exponent of the leading decimal digit of `num / den`. -/
def leadingExponent (num den : Nat) : Int :=
  let e : Int := ((Nat.toDigits 10 num).length : Int) - ((Nat.toDigits 10 den).length : Int)
  let reaches :=
    if e ≥ 0 then decide (den * Nat.pow 10 e.toNat ≤ num)
    else decide (den ≤ num * Nat.pow 10 (-e).toNat)
  if reaches then e else e - 1

/-- The grid point inside the interval among the two neighbours of the value on the grid of
multiples of `10 ^ k`, the nearer one if both are inside, the even one on a tie. -/
def gridPoint? (i : Interval) (k : Int) : Option Nat :=
  let up := Nat.pow 10 (-k).toNat
  let unit := Nat.pow 2 i.shift * Nat.pow 10 k.toNat
  let below := i.value * up / unit
  let inside (c : Nat) : Bool :=
    let x := c * unit
    if i.closed then i.low * up ≤ x && x ≤ i.high * up else i.low * up < x && x < i.high * up
  match inside below, inside (below + 1) with
  | true, true =>
    let gapBelow := i.value * up - below * unit
    let gapAbove := (below + 1) * unit - i.value * up
    if gapBelow < gapAbove || gapBelow == gapAbove && below % 2 == 0 then some below
    else some (below + 1)
  | true, false => some below
  | false, true => some (below + 1)
  | false, false => none

/-- The first of the grids with `n`, `n + 1`, … digits that meets the interval. -/
def firstGrid (i : Interval) (leading : Int) : (grids n : Nat) → Decimal
  | 0, n => ⟨0, leading - n⟩
  | grids + 1, n =>
    let k := leading - n + 1
    match gridPoint? i k with
    | some c => ⟨c, k⟩
    | none => firstGrid i leading grids (n + 1)

/-- Seventeen digits always suffice. A grid point with a trailing zero is a point of the coarser
grid, except for the carry to the next power of ten, which is reduced here. -/
def shortest (d : Double) : Decimal :=
  let i := d.interval
  let dec := firstGrid i (leadingExponent i.value (Nat.pow 2 i.shift)) 17 1
  if dec.digits = 10 then ⟨1, dec.exponent + 1⟩ else dec

/-! ## Text -/

/-- Positional while the point lies at most sixteen places right of the first digit or at most five
zeros stand before it; otherwise one digit, the rest behind a point, and an exponent with its
sign. -/
def Decimal.text (x : Decimal) : String :=
  let ds := Nat.toDigits 10 x.digits
  let point : Int := ds.length + x.exponent
  String.ofList <|
    if 0 ≤ x.exponent ∧ point ≤ 16 then
      ds ++ List.replicate x.exponent.toNat '0' ++ ['.', '0']
    else if 0 < point ∧ point ≤ 16 then
      ds.take point.toNat ++ ['.'] ++ ds.drop point.toNat
    else if -5 < point ∧ point ≤ 0 then
      ['0', '.'] ++ List.replicate (-point).toNat '0' ++ ds
    else
      let scale := (if point < 1 then [] else ['+']) ++ (toString (point - 1)).toList
      match ds with
      | [d] => [d, 'e'] ++ scale
      | d :: rest => [d, '.'] ++ rest ++ ['e'] ++ scale
      | [] => []

/-- The text of a finite value; `none` for infinities and NaNs, which have no decimal. -/
def text? (d : Double) : Option String :=
  if d.isFinite then
    let sign := if d.isNegative then "-" else ""
    some (sign ++ if d.mantissa = 0 then "0.0" else d.shortest.text)
  else none

/-! ## Rounding to a grid -/

/-- The integer nearest to `num / den`, the even one of two. -/
def nearest (num den : Nat) : Nat :=
  let low := num / den
  let twice := 2 * (num % den)
  if twice < den ∨ twice = den ∧ low % 2 = 0 then low else low + 1

/-- The number of parts of size `1 / parts` that is nearest to the magnitude of a finite value. -/
def roundTo (d : Double) (parts : Nat) : Nat :=
  nearest (d.mantissa * parts * Nat.pow 2 d.exponent.toNat) (Nat.pow 2 (-d.exponent).toNat)

/-! ## From decimal parts -/

def powerOfTen (k : Nat) : Float := Float.ofScientific 1 false k

/-- Divide by `10 ^ 308` while the exponent is too small for one division. -/
def lowerOnce : Float × Int → Float × Int
  | (f, e) => if e < -308 ∧ f != 0.0 then (f / powerOfTen 308, e + 308) else (f, e)

/-- The value of `significand · 10 ^ exponent`, or `none` if it is too large. The significand fits
sixty-four bits, so after two divisions by `10 ^ 308` nothing but zero is left. -/
def ofParts? (negative : Bool) (significand : UInt64) (exponent : Int) : Option Double :=
  let signed (f : Float) : Double := ofFloat (if negative then -f else f)
  let start := significand.toFloat
  if 0 ≤ exponent then
    if exponent ≤ 308 then
      let f := start * powerOfTen exponent.toNat
      if f.isInf then none else some (signed f)
    else if start == 0.0 then some (signed start)
    else none
  else
    let (f, e) := lowerOnce (lowerOnce (start, exponent))
    some (signed (if -308 ≤ e then f / powerOfTen (-e).toNat else f))

end Double

end OutlineNav
