import OutlineNav.Json.Basic

/-!
# Writing JSON

`Json.compact` writes a value without any blank; `Json.pretty` gives every item and member a line
of its own, indented by two spaces a level, and leaves empty arrays and objects on one line. Texts
escape the double quote, the backslash and the control characters below U+0020, nothing else. A
number that is not finite has no JSON form and is written as `null`.
-/

namespace OutlineNav.Json

def escapeChar (c : Char) : String :=
  if c = '"' then "\\\""
  else if c = '\\' then "\\\\"
  else if c = '\n' then "\\n"
  else if c = '\r' then "\\r"
  else if c = '\t' then "\\t"
  else if c = '\x08' then "\\b"
  else if c = '\x0c' then "\\f"
  else if c.toNat < 0x20 then
    "\\u00" ++ String.ofList [Nat.digitChar (c.toNat / 16), Nat.digitChar (c.toNat % 16)]
  else c.toString

def quote (s : String) : String :=
  s.toList.foldl (fun out c => out ++ escapeChar c) "\"" ++ "\""

def floatText (d : Double) : String := d.text?.getD "null"

/-! ## Compact form -/

mutual

def compact : Json → String
  | .null => "null"
  | .bool true => "true"
  | .bool false => "false"
  | .int n => toString n
  | .float d => floatText d
  | .str s => quote s
  | .arr items => "[" ++ compactItems items ++ "]"
  | .obj members => "\x7b" ++ compactMembers members ++ "\x7d"

def compactItems : List Json → String
  | [] => ""
  | [v] => compact v
  | v :: rest => compact v ++ "," ++ compactItems rest

def compactMembers : List (String × Json) → String
  | [] => ""
  | [(k, v)] => quote k ++ ":" ++ compact v
  | (k, v) :: rest => quote k ++ ":" ++ compact v ++ "," ++ compactMembers rest

end

/-! ## Pretty form -/

/-- The start of a line `depth` levels deep. -/
def newline (depth : Nat) : String := "\n" ++ String.ofList (List.replicate (2 * depth) ' ')

mutual

def prettyAt (depth : Nat) : Json → String
  | .null => "null"
  | .bool true => "true"
  | .bool false => "false"
  | .int n => toString n
  | .float d => floatText d
  | .str s => quote s
  | .arr [] => "[]"
  | .obj [] => "\x7b\x7d"
  | .arr (v :: rest) =>
    "[" ++ newline (depth + 1) ++ prettyAt (depth + 1) v ++ prettyItems (depth + 1) rest ++
      newline depth ++ "]"
  | .obj ((k, v) :: rest) =>
    "\x7b" ++ newline (depth + 1) ++ quote k ++ ": " ++ prettyAt (depth + 1) v ++
      prettyMembers (depth + 1) rest ++ newline depth ++ "\x7d"

/-- The items after the first, each behind a comma. -/
def prettyItems (depth : Nat) : List Json → String
  | [] => ""
  | v :: rest => "," ++ newline depth ++ prettyAt depth v ++ prettyItems depth rest

/-- The members after the first, each behind a comma. -/
def prettyMembers (depth : Nat) : List (String × Json) → String
  | [] => ""
  | (k, v) :: rest =>
    "," ++ newline depth ++ quote k ++ ": " ++ prettyAt depth v ++ prettyMembers depth rest

end

def pretty (v : Json) : String := prettyAt 0 v

end OutlineNav.Json
