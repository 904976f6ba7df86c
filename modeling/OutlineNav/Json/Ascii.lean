import OutlineNav.Json.Basic

/-!
# JSON in ASCII

A form of JSON for logs: on one line, with a blank behind every comma and colon, and in ASCII only.
Other characters are written by their UTF-16 units. Numbers whose point lies at most three zeros
left of the first digit are positional, and exponents have two digits at least.
-/

namespace OutlineNav.Json

/-! ## Texts -/

def unitEscape (unit : Nat) : String :=
  let digits := Nat.toDigits 16 unit
  "\\u" ++ String.ofList (List.replicate (4 - digits.length) '0' ++ digits)

/-- The escape of a character by its UTF-16 units. -/
def unitEscapes (c : Char) : String :=
  if c.toNat < 0x10000 then unitEscape c.toNat
  else
    let n := c.toNat - 0x10000
    unitEscape (0xD800 + n / 0x400) ++ unitEscape (0xDC00 + n % 0x400)

def asciiChar (c : Char) : String :=
  if c = '"' then "\\\""
  else if c = '\\' then "\\\\"
  else if c = '\n' then "\\n"
  else if c = '\r' then "\\r"
  else if c = '\t' then "\\t"
  else if c = '\x08' then "\\b"
  else if c = '\x0c' then "\\f"
  else if 0x20 ≤ c.toNat ∧ c.toNat < 0x7F then c.toString
  else unitEscapes c

def asciiQuote (s : String) : String :=
  s.toList.foldl (fun out c => out ++ asciiChar c) "\"" ++ "\""

/-! ## Numbers -/

def asciiDecimal (x : Double.Decimal) : String :=
  let ds := Nat.toDigits 10 x.digits
  let point : Int := ds.length + x.exponent
  if -4 < point ∧ point ≤ 16 then x.text
  else
    let size := (point - 1).natAbs
    let sign := if point < 1 then "-" else "+"
    let fraction := if ds.length = 1 then [] else '.' :: ds.drop 1
    String.ofList (ds.take 1 ++ fraction) ++ "e" ++ sign ++ (if size < 10 then "0" else "") ++
      toString size

def asciiFloat (d : Double) : String :=
  (if d.isNegative then "-" else "") ++
    if d.mantissa = 0 then "0.0" else asciiDecimal d.shortest

/-! ## Values -/

mutual

def ascii : Json → String
  | .null => "null"
  | .bool true => "true"
  | .bool false => "false"
  | .int n => toString n
  | .float d => asciiFloat d
  | .str s => asciiQuote s
  | .arr items => "[" ++ asciiItems items ++ "]"
  | .obj members => "\x7b" ++ asciiMembers members ++ "\x7d"

def asciiItems : List Json → String
  | [] => ""
  | [v] => ascii v
  | v :: rest => ascii v ++ ", " ++ asciiItems rest

def asciiMembers : List (String × Json) → String
  | [] => ""
  | [(k, v)] => asciiQuote k ++ ": " ++ ascii v
  | (k, v) :: rest => asciiQuote k ++ ": " ++ ascii v ++ ", " ++ asciiMembers rest

end

end OutlineNav.Json
