/-!
# UTF-8

Encoding and decoding of texts as bytes. Decoding takes the bytes apart character by character and,
where that fails, tells the index of the offending sequence and how many of its bytes were already
recognised as wrong, or that the bytes ended inside a sequence.
-/

namespace OutlineNav.Text

def encodeUtf8 (cs : List Char) : List UInt8 := cs.flatMap String.utf8EncodeChar

def utf8Length (cs : List Char) : Nat := cs.foldl (fun n c => n + c.utf8Size) 0

/-- Why bytes are not UTF-8: `index` counts the valid bytes in front, `length?` the bytes of the
sequence that cannot be part of any text, absent if the bytes end too early. -/
structure Utf8Error where
  index : Nat
  length? : Option Nat
  deriving DecidableEq, Repr

def Utf8Error.message (e : Utf8Error) : String :=
  match e.length? with
  | some n => s!"invalid utf-8 sequence of {n} bytes from index {e.index}"
  | none => s!"incomplete utf-8 byte sequence from index {e.index}"

/-- Continuation bytes carry the low six bits. -/
def isContinuation (b : UInt8) : Bool := 0x80 ≤ b && b ≤ 0xBF

/-- How many bytes a sequence that starts with `b` has; `none` for bytes that start no sequence. -/
def sequenceLength? (b : UInt8) : Option Nat :=
  if b < 0x80 then some 1
  else if b < 0xC2 then none
  else if b < 0xE0 then some 2
  else if b < 0xF0 then some 3
  else if b < 0xF5 then some 4
  else none

/-- The second byte neither makes the sequence longer than needed, nor a surrogate, nor a number
beyond the last code point. -/
def isSecondByte (first second : UInt8) : Bool :=
  let low : UInt8 := if first = 0xE0 then 0xA0 else if first = 0xF0 then 0x90 else 0x80
  let high : UInt8 := if first = 0xED then 0x9F else if first = 0xF4 then 0x8F else 0xBF
  low ≤ second && second ≤ high

/-- The code point of a sequence from the payload of its first byte and its continuation bytes. -/
def codePoint (payload : Nat) (rest : List UInt8) : Char :=
  Char.ofNat (rest.foldl (fun n b => n * 64 + b.toNat % 64) payload)

/-- Decodes bytes of which `index` valid ones came before. -/
def decodeUtf8From (index : Nat) : List UInt8 → Except Utf8Error (List Char)
  | [] => .ok []
  | b₁ :: rest =>
    let invalid (n : Nat) : Except Utf8Error (List Char) := .error ⟨index, some n⟩
    let incomplete : Except Utf8Error (List Char) := .error ⟨index, none⟩
    match sequenceLength? b₁ with
    | some 1 => (decodeUtf8From (index + 1) rest).map (codePoint b₁.toNat [] :: ·)
    | some 2 =>
      match rest with
      | [] => incomplete
      | b₂ :: rest =>
        if !isSecondByte b₁ b₂ then invalid 1
        else (decodeUtf8From (index + 2) rest).map (codePoint (b₁.toNat % 32) [b₂] :: ·)
    | some 3 =>
      match rest with
      | [] => incomplete
      | b₂ :: rest =>
        if !isSecondByte b₁ b₂ then invalid 1
        else match rest with
          | [] => incomplete
          | b₃ :: rest =>
            if !isContinuation b₃ then invalid 2
            else (decodeUtf8From (index + 3) rest).map (codePoint (b₁.toNat % 16) [b₂, b₃] :: ·)
    | some _ =>
      match rest with
      | [] => incomplete
      | b₂ :: rest =>
        if !isSecondByte b₁ b₂ then invalid 1
        else match rest with
          | [] => incomplete
          | b₃ :: rest =>
            if !isContinuation b₃ then invalid 2
            else match rest with
              | [] => incomplete
              | b₄ :: rest =>
                if !isContinuation b₄ then invalid 3
                else (decodeUtf8From (index + 4) rest).map
                  (codePoint (b₁.toNat % 8) [b₂, b₃, b₄] :: ·)
    | none => invalid 1

def decodeUtf8 (bytes : List UInt8) : Except Utf8Error (List Char) := decodeUtf8From 0 bytes

end OutlineNav.Text
