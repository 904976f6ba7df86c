import OutlineNav.Json.Basic
import OutlineNav.Json.Syntax
import OutlineNav.Text.Digit
import OutlineNav.Text.Parsed

/-!
# Reading JSON

A reader of the JSON grammar over characters. Every reader returns what is left with a proof that
it is shorter than a bound, which is why reading ends. Values may nest 127 levels deep.

An object is read as the trace of its members in the order of the text, which is kept up to the
place where reading failed: somebody who judges members one by one can then report what he found
before the text went wrong (`readMembers`). `parse` reads a whole text.
-/

namespace OutlineNav.Json

abbrev Reader (α : Type) (bound : Nat) := Except SyntaxError (Text.Parsed α bound)

namespace Reader

variable {α : Type} {m n : Nat}

def done (value : α) (rest : List Char) (lt : rest.length < n) : Reader α n :=
  .ok ⟨value, rest, lt⟩

def widen (h : m ≤ n) (r : Reader α m) : Reader α n := r.map (·.widen h)

/-- An error right before `rest`. -/
def failAt {β : Type} (cause : SyntaxCause) (rest : List Char) : Except SyntaxError β :=
  .error ⟨cause, Text.utf8Length rest⟩

/-- An error about the first byte of `rest`, which counts as read. -/
def failOn {β : Type} (cause : SyntaxCause) (rest : List Char) : Except SyntaxError β :=
  .error ⟨cause, Text.utf8Length rest - 1⟩

end Reader

open Reader
open Text (digit? hexDigit? lt_behind succ_le_succ_behind)

/-! ## Blanks -/

def isSpace (c : Char) : Bool := c == ' ' || c == '\n' || c == '\t' || c == '\r'

def skipSpace (s : List Char) : List Char := s.dropWhile isSpace

theorem length_skipSpace_le (s : List Char) : (skipSpace s).length ≤ s.length :=
  (List.dropWhile_sublist isSpace).length_le

theorem length_lt_of_skipSpace {s t : List Char} {c : Char} (h : skipSpace s = c :: t) :
    t.length < s.length := by
  have := length_skipSpace_le s
  rw [h, List.length_cons] at this
  omega

/-! ## Numbers -/

/-- A floating-point number from its decimal parts. -/
def readParts (negative : Bool) (significand : Nat) (exponent : Int) (rest : List Char) :
    Reader Json (rest.length + 1) :=
  match Double.ofParts? negative significand.toUInt64 exponent with
  | some d => done (.float d) rest (lt_behind rest)
  | none => failAt .numberOutOfRange rest

def skipDigits : (s : List Char) → { r : List Char // r.length ≤ s.length }
  | [] => ⟨[], Nat.le_refl _⟩
  | c :: rest =>
    match digit? c with
    | some _ => ⟨(skipDigits rest).val, Nat.le_succ_of_le (skipDigits rest).property⟩
    | none => ⟨c :: rest, Nat.le_refl _⟩

/-- The digits of an exponent after the first; `scale` is its value so far. One that leaves
thirty-two bits makes the number zero or too large. -/
def readExponentDigits (negative : Bool) (significand : Nat) (point : Int) (raises : Bool)
    (scale : Nat) : (s : List Char) → Reader Json (s.length + 1)
  | [] => readParts negative significand (if raises then point + scale else point - scale) []
  | c :: rest =>
    match digit? c with
    | some d =>
      if scale * 10 + d < 0x80000000 then
        (readExponentDigits negative significand point raises (scale * 10 + d) rest).widen
          (succ_le_succ_behind rest)
      else if significand ≠ 0 ∧ raises then failAt .numberOutOfRange rest
      else
        let r := skipDigits rest
        (readParts negative 0 0 r.val).widen (by have := r.property; simp; omega)
    | none =>
      readParts negative significand (if raises then point + scale else point - scale) (c :: rest)

def readExponentStart (negative : Bool) (significand : Nat) (point : Int) (raises : Bool) :
    (s : List Char) → Reader Json (s.length + 1)
  | [] => failAt .unfinishedValue []
  | c :: rest =>
    match digit? c with
    | some d =>
      (readExponentDigits negative significand point raises d rest).widen (succ_le_succ_behind rest)
    | none => failOn .invalidNumber (c :: rest)

def readExponent (negative : Bool) (significand : Nat) (point : Int) :
    (s : List Char) → Reader Json (s.length + 1)
  | '+' :: rest =>
    (readExponentStart negative significand point true rest).widen (succ_le_succ_behind rest)
  | '-' :: rest =>
    (readExponentStart negative significand point false rest).widen (succ_le_succ_behind rest)
  | s => readExponentStart negative significand point true s

/-- What may follow the digits of a number with a fraction. -/
def readAfterFraction (negative : Bool) (significand : Nat) (point : Int) :
    (s : List Char) → Reader Json (s.length + 1)
  | 'e' :: rest => (readExponent negative significand point rest).widen (succ_le_succ_behind rest)
  | 'E' :: rest => (readExponent negative significand point rest).widen (succ_le_succ_behind rest)
  | s => readParts negative significand point s

/-- The digits behind the point. Digits that no longer fit the sixty-four bits of the significand
are dropped. -/
def readFraction (negative : Bool) (significand : Nat) (point : Int) (any : Bool) :
    (s : List Char) → Reader Json (s.length + 1)
  | [] =>
    if any then readAfterFraction negative significand point [] else failOn .unfinishedValue []
  | c :: rest =>
    match digit? c with
    | some d =>
      if significand * 10 + d < UInt64.size then
        (readFraction negative (significand * 10 + d) (point - 1) true rest).widen
          (succ_le_succ_behind rest)
      else
        let r := skipDigits rest
        (readAfterFraction negative significand point r.val).widen (by
          have := r.property; simp; omega)
    | none =>
      if any then readAfterFraction negative significand point (c :: rest)
      else failOn .invalidNumber (c :: rest)

/-- The further digits of an integer that does not fit sixty-four bits. -/
def readLongInteger (negative : Bool) (significand : Nat) (point : Int) :
    (s : List Char) → Reader Json (s.length + 1)
  | [] => readParts negative significand point []
  | c :: rest =>
    match digit? c with
    | some _ =>
      (readLongInteger negative significand (point + 1) rest).widen (succ_le_succ_behind rest)
    | none =>
      if c = '.' then
        (readFraction negative significand point false rest).widen (succ_le_succ_behind rest)
      else readAfterFraction negative significand point (c :: rest)

/-- An integer without fraction and exponent. Negative zero and integers below the signed range are
floating-point numbers. -/
def integerValue (negative : Bool) (significand : Nat) : Json :=
  if negative then
    if significand = 0 ∨ 0x8000000000000000 < significand then
      .float (.ofFloat (-significand.toUInt64.toFloat))
    else .int (-(significand : Int))
  else .int significand

/-- What may follow the digits of an integer. -/
def readAfterInteger (negative : Bool) (significand : Nat) :
    (s : List Char) → Reader Json (s.length + 1)
  | '.' :: rest => (readFraction negative significand 0 false rest).widen (succ_le_succ_behind rest)
  | 'e' :: rest => (readExponent negative significand 0 rest).widen (succ_le_succ_behind rest)
  | 'E' :: rest => (readExponent negative significand 0 rest).widen (succ_le_succ_behind rest)
  | s => done (integerValue negative significand) s (lt_behind s)

def readIntegerDigits (negative : Bool) (significand : Nat) :
    (s : List Char) → Reader Json (s.length + 1)
  | [] => readAfterInteger negative significand []
  | c :: rest =>
    match digit? c with
    | some d =>
      if significand * 10 + d < UInt64.size then
        (readIntegerDigits negative (significand * 10 + d) rest).widen (succ_le_succ_behind rest)
      else readLongInteger negative significand 0 (c :: rest)
    | none => readAfterInteger negative significand (c :: rest)

/-- A number behind its first digit. A leading zero stands alone. -/
def readNumber (negative : Bool) (first : Nat) (rest : List Char) : Reader Json (rest.length + 1) :=
  if first = 0 then
    if rest.head?.any fun d => (digit? d).isSome then failOn .invalidNumber rest
    else readAfterInteger negative 0 rest
  else readIntegerDigits negative first rest

def readNegative : (s : List Char) → Reader Json (s.length + 1)
  | [] => failAt .unfinishedValue []
  | c :: rest =>
    match digit? c with
    | some d => (readNumber true d rest).widen (succ_le_succ_behind rest)
    | none => failOn .invalidNumber (c :: rest)

/-! ## Strings -/

/-- Four hexadecimal digits. They count as read even if they are none. -/
def readHex (s : List Char) : Reader Nat (s.length + 1) :=
  if Text.utf8Length s < 4 then failAt .unfinishedString []
  else match s with
    | a :: b :: c :: d :: rest =>
      match hexDigit? a, hexDigit? b, hexDigit? c, hexDigit? d with
      | some a, some b, some c, some d =>
        done (((a * 16 + b) * 16 + c) * 16 + d) rest (by simp; omega)
      | _, _, _, _ => .error ⟨.invalidEscape, Text.utf8Length s - 4⟩
    | _ => .error ⟨.invalidEscape, Text.utf8Length s - 4⟩

/-- The second half of a character beyond the basic plane, whose first half is `high`. -/
def readLowSurrogate (high : Nat) : (s : List Char) → Reader Char (s.length + 1)
  | [] => failAt .unfinishedString []
  | '\\' :: [] => failAt .unfinishedString []
  | '\\' :: 'u' :: rest => do
    let low ← readHex rest
    if 0xDC00 ≤ low.value ∧ low.value ≤ 0xDFFF then
      done (Char.ofNat ((high - 0xD800) * 1024 + (low.value - 0xDC00) + 0x10000)) low.rest (by
        have := low.lt; simp; omega)
    else failAt .loneSurrogate low.rest
  | '\\' :: rest => failOn .unexpectedEndOfHexEscape rest
  | s => failOn .unexpectedEndOfHexEscape s

/-- A character given by its number. -/
def readUnicodeEscape (s : List Char) : Reader Char (s.length + 1) := do
  let unit ← readHex s
  if 0xDC00 ≤ unit.value ∧ unit.value ≤ 0xDFFF then failAt .loneSurrogate unit.rest
  else if 0xD800 ≤ unit.value ∧ unit.value ≤ 0xDBFF then
    (readLowSurrogate unit.value unit.rest).widen (by have := unit.lt; omega)
  else done (Char.ofNat unit.value) unit.rest unit.lt

def readEscape : (s : List Char) → Reader Char (s.length + 1)
  | [] => failAt .unfinishedString []
  | c :: rest =>
    let as (c : Char) := done c rest (by grind)
    if c = '"' ∨ c = '\\' ∨ c = '/' then as c
    else if c = 'b' then as '\x08'
    else if c = 'f' then as '\x0c'
    else if c = 'n' then as '\n'
    else if c = 'r' then as '\r'
    else if c = 't' then as '\t'
    else if c = 'u' then (readUnicodeEscape rest).widen (succ_le_succ_behind rest)
    else failOn .invalidEscape (c :: rest)

/-- A string behind its opening quote; `before` is what was read of it, reversed. -/
def readString (before : List Char) (s : List Char) : Reader String (s.length + 1) :=
  match s with
  | [] => failAt .unfinishedString []
  | c :: rest =>
    if c = '"' then done (String.ofList before.reverse) rest (by grind)
    else if c = '\\' then
      match readEscape rest with
      | .ok ⟨e, rest', h⟩ => (readString (e :: before) rest').widen (by simp; omega)
      | .error e => .error e
    else if c.toNat < 0x20 then failAt .controlCharacter rest
    else (readString (c :: before) rest).widen (succ_le_succ_behind rest)
termination_by s.length
decreasing_by
  · simp; omega
  · simp

/-! ## Values -/

/-- The rest of a word such as `null`, behind its first character. -/
def readWord (value : Json) : (word : List Char) → (s : List Char) → Reader Json (s.length + 1)
  | [], s => done value s (lt_behind s)
  | _ :: _, [] => failAt .unfinishedValue []
  | w :: word, c :: rest =>
    if c = w then (readWord value word rest).widen (succ_le_succ_behind rest)
    else failOn .expectedIdent (c :: rest)

/-- A member of an object as far as it was read. -/
structure Member where
  key : String
  /-- The text behind the key. -/
  afterKey : List Char
  /-- The value and the text behind it, unless reading failed before its end. -/
  value? : Option (Json × List Char)

/-- The member list of an object out of its trace: sorted, and a later value replaces an earlier one
of the same key. -/
def membersOf (trace : List Member) : List (String × Json) :=
  sortMembers (trace.filterMap fun m => m.value?.map fun v => (m.key, v.1))

/-- The text at which the next item of an array starts, where `first` tells that none came
before. -/
def itemStart (first : Bool) (s : List Char) : Reader Unit (s.length + 1) :=
  match s with
  | [] => failOn .unfinishedList []
  | c :: rest =>
    if first then done () (c :: rest) (by simp)
    else if c ≠ ',' then failOn .expectedListCommaOrEnd (c :: rest)
    else match h : skipSpace rest with
      | [] => failOn .unfinishedValue []
      | d :: rest' =>
        if d = ']' then failOn .trailingComma (d :: rest')
        else done () (d :: rest') (by have := length_lt_of_skipSpace h; simp; omega)

/-- The text behind the quote that opens the next key of an object. -/
def keyStart (first : Bool) (s : List Char) : Reader Unit s.length :=
  match s with
  | [] => failOn .unfinishedObject []
  | c :: rest =>
    if first then
      if c = '"' then done () rest (lt_behind rest) else failOn .keyMustBeString (c :: rest)
    else if c ≠ ',' then failOn .expectedObjectCommaOrEnd (c :: rest)
    else match h : skipSpace rest with
      | [] => failOn .unfinishedValue []
      | d :: rest' =>
        if d = '"' then done () rest' (by have := length_lt_of_skipSpace h; simp; omega)
        else if d = '\x7d' then failOn .trailingComma (d :: rest')
        else failOn .keyMustBeString (d :: rest')

/-- The text behind the colon that follows a key. -/
def colonEnd (s : List Char) : Reader Unit s.length :=
  match h : skipSpace s with
  | [] => failOn .unfinishedObject []
  | c :: rest =>
    if c = ':' then done () rest (length_lt_of_skipSpace h) else failOn .expectedColon (c :: rest)

mutual

/-- A value that may hold `depth - 1` levels of arrays and objects. -/
def readValue (depth : Nat) (s : List Char) : Reader Json s.length :=
  match h : skipSpace s with
  | [] => failOn .unfinishedValue []
  | c :: rest =>
    have shorter : rest.length < s.length := length_lt_of_skipSpace h
    if c = 'n' then (readWord .null ['u', 'l', 'l'] rest).widen shorter
    else if c = 't' then (readWord (.bool true) ['r', 'u', 'e'] rest).widen shorter
    else if c = 'f' then (readWord (.bool false) ['a', 'l', 's', 'e'] rest).widen shorter
    else if c = '-' then (readNegative rest).widen shorter
    else if c = '"' then
      match readString [] rest with
      | .ok p => done (.str p.value) p.rest (by have := p.lt; omega)
      | .error e => .error e
    else if c = '[' then
      if depth ≤ 1 then failOn .tooDeep (c :: rest)
      else match readItems (depth - 1) true rest with
        | .ok p => done (.arr p.value) p.rest (by have := p.lt; omega)
        | .error e => .error e
    else if c = '\x7b' then
      if depth ≤ 1 then failOn .tooDeep (c :: rest)
      else match readMembers (depth - 1) true rest with
        | (trace, .ok p) => done (.obj (membersOf trace)) p.rest (by have := p.lt; omega)
        | (_, .error e) => .error e
    else match digit? c with
      | some d => (readNumber false d rest).widen shorter
      | none => failOn .expectedValue (c :: rest)
termination_by 2 * s.length

/-- The items of an array up to its closing bracket. -/
def readItems (depth : Nat) (first : Bool) (s : List Char) : Reader (List Json) s.length :=
  have le := length_skipSpace_le s
  match h : skipSpace s with
  | ']' :: rest => done [] rest (length_lt_of_skipSpace h)
  | _ =>
    match itemStart first (skipSpace s) with
    | .error e => .error e
    | .ok start =>
      have := start.lt
      match readValue depth start.rest with
      | .error e => .error e
      | .ok v =>
        have := v.lt
        match readItems depth false v.rest with
        | .error e => .error e
        | .ok vs => done (v.value :: vs.value) vs.rest (by have := vs.lt; omega)
termination_by 2 * s.length + 1

/-- The members of an object up to its closing brace, as a trace. -/
def readMembers (depth : Nat) (first : Bool) (s : List Char) :
    List Member × Reader Unit s.length :=
  have le := length_skipSpace_le s
  match h : skipSpace s with
  | '\x7d' :: rest => ([], done () rest (length_lt_of_skipSpace h))
  | _ =>
    match keyStart first (skipSpace s) with
    | .error e => ([], .error e)
    | .ok start =>
      match readString [] start.rest with
      | .error e => ([], .error e)
      | .ok key =>
        match colonEnd key.rest with
        | .error e => ([⟨key.value, key.rest, none⟩], .error e)
        | .ok colon =>
          have := start.lt
          have := key.lt
          have := colon.lt
          match readValue depth colon.rest with
          | .error e => ([⟨key.value, key.rest, none⟩], .error e)
          | .ok v =>
            have := v.lt
            match readMembers depth false v.rest with
            | (trace, .error e) =>
              (⟨key.value, key.rest, some (v.value, v.rest)⟩ :: trace, .error e)
            | (trace, .ok p) =>
              (⟨key.value, key.rest, some (v.value, v.rest)⟩ :: trace,
                done () p.rest (by have := p.lt; omega))
termination_by 2 * s.length + 1

end

/-! ## Whole texts -/

/-- How deep values may nest, plus one. -/
def depthLimit : Nat := 128

/-- Nothing but blanks may follow a value. -/
def checkEnd (rest : List Char) : Except SyntaxError Unit :=
  match skipSpace rest with
  | [] => .ok ()
  | c :: rest => .error ⟨.trailingCharacters, Text.utf8Length (c :: rest) - 1⟩

def parse (text : List Char) : Except SyntaxError Json := do
  let v ← readValue depthLimit text
  checkEnd v.rest
  return v.value

end OutlineNav.Json
