import OutlineNav.Text.Digit

/-!
# Unsigned decimal numbers in text

Reading a number of bounded size, with the reason when it cannot be read. A leading plus sign is
allowed. Digits are consumed from the left and the first obstacle decides the reason.
-/

namespace OutlineNav.Text

inductive UnsignedError where
  | empty
  | invalidDigit
  | tooLarge
  deriving DecidableEq, Repr

def UnsignedError.message : UnsignedError → String
  | .empty => "cannot parse integer from empty string"
  | .invalidDigit => "invalid digit found in string"
  | .tooLarge => "number too large to fit in target type"

/-- Continues a number below `limit` whose digits so far are worth `value`. -/
def unsignedFrom (limit value : Nat) : List Char → Except UnsignedError Nat
  | [] => .ok value
  | c :: rest =>
    match digit? c with
    | none => .error .invalidDigit
    | some d =>
      if value * 10 + d < limit then unsignedFrom limit (value * 10 + d) rest else .error .tooLarge

/-- The number below `limit` that `cs` writes. -/
def unsigned (limit : Nat) : List Char → Except UnsignedError Nat
  | [] => .error .empty
  | ['+'] => .error .invalidDigit
  | '+' :: c :: rest => unsignedFrom limit 0 (c :: rest)
  | c :: rest => unsignedFrom limit 0 (c :: rest)

def unsigned32 (cs : List Char) : Except UnsignedError UInt32 :=
  (unsigned UInt32.size cs).map UInt32.ofNat

def unsigned64 (cs : List Char) : Except UnsignedError UInt64 :=
  (unsigned UInt64.size cs).map UInt64.ofNat

end OutlineNav.Text
