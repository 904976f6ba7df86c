/-!
# Parts of a text

What reading a part of a text gives: the value that the part writes, and the text left over, with a
proof that it is shorter than a bound. The bound is what makes reading end.
-/

namespace OutlineNav.Text

/-- A value read, with the text left over. -/
structure Parsed (α : Type) (bound : Nat) where
  value : α
  rest : List Char
  lt : rest.length < bound

/-- The same part under a larger bound. -/
def Parsed.widen {α : Type} {m n : Nat} (h : m ≤ n) (p : Parsed α m) : Parsed α n :=
  ⟨p.value, p.rest, Nat.lt_of_lt_of_le p.lt h⟩

/-! ## Bounds

The bounds that hold behind a character of a text, where `rest` is what follows it. -/

theorem lt_behind (rest : List Char) : rest.length < rest.length + 1 := Nat.lt_succ_self _

theorem le_behind (rest : List Char) : rest.length ≤ rest.length + 1 := Nat.le_succ _

theorem succ_le_behind (rest : List Char) : rest.length + 1 ≤ rest.length + 1 := Nat.le_refl _

theorem succ_le_succ_behind (rest : List Char) : rest.length + 1 ≤ rest.length + 1 + 1 :=
  Nat.le_succ _

end OutlineNav.Text
