/-!
# Quoted texts in configuration files

A text is written in the plainest of five styles that can hold it as it is: between double quotes,
between single quotes, and between three double or three single quotes, where a line may end. If
none can, it stands between double quotes with the characters that need it escaped.
-/

namespace OutlineNav.Toml

/-! ## What a text holds -/

/-- A control character other than the tab and the line feed, which cannot stand for itself. -/
def isControl (c : Char) : Bool := (c.toNat < 0x20 && c != '\t' && c != '\n') || c.toNat == 0x7F

/-- The greatest number of copies of a character in a row, where `run` came right before. -/
def longestRunFrom (c : Char) (run : Nat) : List Char → Nat
  | [] => run
  | d :: rest =>
    if d = c then longestRunFrom c (run + 1) rest else max run (longestRunFrom c 0 rest)

def longestRun (c : Char) (cs : List Char) : Nat := longestRunFrom c 0 cs

/-! ## Escapes -/

def codeDigit (n : Nat) : Char := (Nat.digitChar (n % 16)).toUpper

/-- How a character is written between double quotes, where `long` tells that there are three. -/
def escapeChar (long : Bool) (c : Char) : List Char :=
  if c = '\x08' then ['\\', 'b']
  else if c = '\t' then ['\\', 't']
  else if c = '\n' then if long then ['\n'] else ['\\', 'n']
  else if c = '\x0c' then ['\\', 'f']
  else if c = '\r' then ['\\', 'r']
  else if c = '\\' then ['\\', '\\']
  else if isControl c then ['\\', 'u', '0', '0', codeDigit (c.toNat / 16), codeDigit c.toNat]
  else [c]

/-- A text between double quotes; `free` double quotes in a row need no escape, and `run` of them
came right before. -/
def escapeFrom (long : Bool) (free run : Nat) : List Char → List Char
  | [] => []
  | c :: rest =>
    if c = '"' then
      if run < free then '"' :: escapeFrom long free (run + 1) rest
      else '\\' :: '"' :: escapeFrom long free 0 rest
    else escapeChar long c ++ escapeFrom long free 0 rest

def escape (long : Bool) (cs : List Char) : List Char :=
  escapeFrom long (if long then 2 else 0) 0 cs

/-! ## Styles -/

def basic (cs : List Char) : List Char := '"' :: escape false cs ++ ['"']

/-- A text between three copies of a quote; one with a line feed starts on a line of its own. -/
def long (quote : Char) (cs body : List Char) : List Char :=
  let quotes := [quote, quote, quote]
  quotes ++ (if '\n' ∈ cs then ['\n'] else []) ++ body ++ quotes

def quotedChars (cs : List Char) : List Char :=
  let control := cs.any isControl
  let backslash := '\\' ∈ cs
  let newline := '\n' ∈ cs
  let doubles := longestRun '"' cs
  let singles := longestRun '\'' cs
  if !control ∧ ¬backslash ∧ doubles = 0 ∧ ¬newline then basic cs
  else if !control ∧ singles = 0 ∧ ¬newline then '\'' :: cs ++ ['\'']
  else if !control ∧ ¬backslash ∧ doubles ≤ 2 then long '"' cs (escape true cs)
  else if !control ∧ singles ≤ 2 then long '\'' cs cs
  else if newline then long '"' cs (escape true cs)
  else basic cs

/-- The written form of a text. -/
def quoted (s : String) : String := String.ofList (quotedChars s.toList)

end OutlineNav.Toml
