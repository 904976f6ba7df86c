import OutlineNav.Text.HiddenTable

/-!
# Quoted texts in messages

`quoted s` shows a text between double quotes so that every character of it can be seen: quotes
and backslashes behind a backslash, the common control characters by their letters, and other
characters without a printed form by their number.
-/

namespace OutlineNav.Text

def quotedChar (c : Char) : List Char :=
  if c = '"' then ['\\', '"']
  else if c = '\\' then ['\\', '\\']
  else if c = '\n' then ['\\', 'n']
  else if c = '\r' then ['\\', 'r']
  else if c = '\t' then ['\\', 't']
  else if c = '\x00' then ['\\', '0']
  else if isHidden c then ['\\', 'u', '\x7b'] ++ Nat.toDigits 16 c.toNat ++ ['\x7d']
  else [c]

def quoted (s : String) : String :=
  String.ofList (['"'] ++ s.toList.flatMap quotedChar ++ ['"'])

end OutlineNav.Text
