import Mathlib.Data.List.TakeWhile
import OutlineNav.Location
import OutlineNav.Proofs.Decimals
import OutlineNav.Proofs.Readings

/-!
# Lines and columns in text

A line and a column are written as two decimal numbers around a colon. No number holds a colon, so
the first colon of the text is the one that was written, and both numbers read back as themselves
(`parse_text`); a line alone reads as its first column (`parse_line`). Reading gives only numbers
that count from one (`counted_of_parse`), which is all that the two ways back ask for.
-/

namespace OutlineNav

/-! ## Words -/

theorem Text.toList_word (n : UInt32) : (toString n).toList = Nat.toDigits 10 n.toNat :=
  toList_toString n.toNat

theorem Text.unsigned32_word (n : UInt32) : unsigned32 (toString n).toList = .ok n := by
  have hread : unsigned UInt32.size (toString n).toList = .ok n.toNat :=
    unsigned_toString n.toNat_lt
  rw [unsigned32, hread]
  exact congrArg Except.ok (UInt32.ofNat_toNat (x := n))

theorem Text.one_le_word {n : UInt32} : 1 ≤ n ↔ n ≠ 0 := by
  rw [UInt32.le_iff_toNat_le, ne_eq, ← UInt32.toNat_inj]
  exact Nat.one_le_iff_ne_zero

theorem Text.isDigit_of_mem_word {n : UInt32} {c : Char} (h : c ∈ (toString n).toList) :
    c.isDigit = true := by
  rw [toList_word] at h
  exact Nat.isDigit_of_mem_toDigits (by decide) (by decide) h

theorem Text.colon_not_mem_word (n : UInt32) : ':' ∉ (toString n).toList := fun h =>
  absurd (isDigit_of_mem_word h) (by decide)

namespace LineColumn

/-- Both numbers count from one. -/
structure Counted (p : LineColumn) : Prop where
  line : 1 ≤ p.line
  column : 1 ≤ p.column

theorem toList_text (p : LineColumn) :
    p.text.toList = (toString p.line).toList ++ ':' :: (toString p.column).toList := by
  simp [text, ToString.toString]

/-! ## The first colon -/

theorem splitColon_append {cs rest : List Char} (h : ':' ∉ cs) :
    splitColon (cs ++ ':' :: rest) = (cs, some rest) := by
  have hpos : ∀ c ∈ cs, (c != ':') = true := fun c hc => bne_iff_ne.mpr fun heq => h (heq ▸ hc)
  rw [splitColon, List.dropWhile_append_of_pos hpos, List.takeWhile_append_of_pos hpos]
  simp

theorem splitColon_of_not_mem {cs : List Char} (h : ':' ∉ cs) : splitColon cs = (cs, none) := by
  have hpos : ∀ c ∈ cs, (c != ':') = true := fun c hc => bne_iff_ne.mpr fun heq => h (heq ▸ hc)
  rw [splitColon, List.dropWhile_eq_nil_iff.mpr hpos]

/-! ## Reading -/

theorem parse_text {p : LineColumn} (h : p.Counted) : parse p.text.toList = .ok p := by
  rw [parse, toList_text, splitColon_append (Text.colon_not_mem_word _)]
  simp only [Text.unsigned32_word]
  show (if p.line = 0 then _ else if p.column = 0 then _ else _) = _
  rw [if_neg (Text.one_le_word.mp h.line), if_neg (Text.one_le_word.mp h.column)]

theorem parse_line {line : UInt32} (h : 1 ≤ line) :
    parse (toString line).toList = .ok ⟨line, 1⟩ := by
  rw [parse, splitColon_of_not_mem (Text.colon_not_mem_word _)]
  simp only [Text.unsigned32_word]
  show (if line = 0 then _ else _) = _
  rw [if_neg (Text.one_le_word.mp h)]
  rfl

/-- Both numbers are checked before they are given. -/
theorem counted_of_check {line column : UInt32} {p : LineColumn}
    (h : (if line = 0 then .error .zeroLine else if column = 0 then .error .zeroColumn
      else .ok ⟨line, column⟩ : Except LocationError LineColumn) = .ok p) : p.Counted := by
  by_cases hline : line = 0
  · rw [if_pos hline] at h
    cases h
  · by_cases hcolumn : column = 0
    · rw [if_neg hline, if_pos hcolumn] at h
      cases h
    · rw [if_neg hline, if_neg hcolumn] at h
      cases h
      exact ⟨Text.one_le_word.mpr hline, Text.one_le_word.mpr hcolumn⟩

theorem counted_of_parse {cs : List Char} {p : LineColumn} (h : parse cs = .ok p) : p.Counted := by
  rw [parse] at h
  generalize splitColon cs = parts at h
  obtain ⟨lineText, columnText?⟩ := parts
  obtain ⟨line, -, h⟩ := Except.bind_eq_ok_iff.mp h
  cases columnText? with
  | none => exact counted_of_check h
  | some columnText =>
      obtain ⟨column, -, h⟩ := Except.bind_eq_ok_iff.mp h
      exact counted_of_check h

end LineColumn

end OutlineNav
