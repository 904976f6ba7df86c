import OutlineNav.Text.Utf8

/-!
# Document addresses

A document is named to a server by a `file` address: its path with every character outside a small
safe set replaced by its UTF-8 bytes in percent form. `percentDecode?` reads percent forms back.
-/

namespace OutlineNav.Uri

/-- Characters that stand for themselves. -/
def isSafe (c : Char) : Bool :=
  c == '/' || c == '.' || c == '-' || c == '_' || c == '~' || c.isAlphanum

def hexDigit (n : Nat) : Char :=
  if n < 10 then Char.ofNat ('0'.toNat + n) else Char.ofNat ('A'.toNat + (n - 10))

def percentByte (b : UInt8) : List Char := ['%', hexDigit (b.toNat / 16), hexDigit (b.toNat % 16)]

def encodeChar (c : Char) : List Char :=
  if isSafe c then [c] else (String.utf8EncodeChar c).flatMap percentByte

def encode (path : List Char) : List Char := path.flatMap encodeChar

def scheme : List Char := "file://".toList

/-- The address of the document at an absolute path. -/
def ofPath (path : String) : String := String.ofList (scheme ++ encode path.toList)

/-! ## Reading back -/

def hexValue? (c : Char) : Option Nat :=
  if '0' ≤ c ∧ c ≤ '9' then some (c.toNat - '0'.toNat)
  else if 'A' ≤ c ∧ c ≤ 'F' then some (c.toNat - 'A'.toNat + 10)
  else none

/-- The bytes that a text in percent form stands for. -/
def percentDecode? : List Char → Option (List UInt8)
  | [] => some []
  | '%' :: a :: b :: rest => do
    let high ← hexValue? a
    let low ← hexValue? b
    let bytes ← percentDecode? rest
    return UInt8.ofNat (high * 16 + low) :: bytes
  | c :: rest => do
    guard (c != '%')
    let bytes ← percentDecode? rest
    return String.utf8EncodeChar c ++ bytes

end OutlineNav.Uri
