import OutlineNav.Text.Blank
import OutlineNav.Text.Unsigned

/-!
# Written numbers

A natural number written in decimal digits reads back as itself, whatever reads its digits from the
left: a reader that has seen the digits of `n / 10` and sees the last digit of `n` has seen `n`.
`decimal_induction` is that argument without a reader. Blanks around the digits are not part of the
number, and trimming takes away no more than those.
-/

namespace OutlineNav.Text

theorem digit?_digitChar {d : Nat} (h : d < 10) : digit? (Nat.digitChar d) = some d := by
  have hchar := Nat.toNat_digitChar_of_lt_ten h
  have hzero : '0' ≤ Nat.digitChar d := by
    rw [Char.le_def, UInt32.le_iff_toNat_le]
    show 48 ≤ (Nat.digitChar d).toNat
    omega
  have hnine : Nat.digitChar d ≤ '9' := by
    rw [Char.le_def, UInt32.le_iff_toNat_le]
    show (Nat.digitChar d).toNat ≤ 57
    omega
  rw [digit?, if_pos ⟨hzero, hnine⟩, hchar]
  simp

/-- What holds of the numbers with one digit, and of a number with one more digit behind a number
that it holds of. -/
theorem decimal_induction {motive : Nat → List Char → Prop}
    (digit : ∀ d < 10, motive d [Nat.digitChar d])
    (snoc : ∀ n d, 0 < n → d < 10 → motive n (Nat.toDigits 10 n) →
      motive (n * 10 + d) (Nat.toDigits 10 n ++ [Nat.digitChar d]))
    (n : Nat) : motive n (Nat.toDigits 10 n) := by
  induction n using Nat.strongRecOn with
  | _ n ih => ?_
  by_cases hn : n < 10
  · rw [Nat.toDigits_of_lt_base hn]
    exact digit n hn
  · rw [Nat.toDigits_of_base_le (by decide) (by omega)]
    have h := snoc (n / 10) (n % 10) (by omega) (by omega) (ih _ (by omega))
    rwa [Nat.div_add_mod' n 10] at h

/-- Numbers other than zero are written without leading zeros. -/
theorem exists_leading_digit {n : Nat} (h : 0 < n) :
    ∃ d ds, 0 < d ∧ d < 10 ∧ Nat.toDigits 10 n = Nat.digitChar d :: ds := by
  revert h
  refine decimal_induction (motive := fun n cs => 0 < n → ∃ d ds, 0 < d ∧ d < 10 ∧
    cs = Nat.digitChar d :: ds) ?_ ?_ n
  · intro d hd hpos
    exact ⟨d, [], hpos, hd, rfl⟩
  · intro n d hn hd ih hpos
    obtain ⟨e, es, he, he', hes⟩ := ih hn
    exact ⟨e, es ++ [Nat.digitChar d], he, he', by rw [hes, List.cons_append]⟩

theorem toList_toString (n : Nat) : (toString n).toList = Nat.toDigits 10 n := Nat.toList_repr

/-- The digits of a number lead the reader to it. -/
theorem unsignedFrom_toDigits {limit n : Nat} (h : n < limit) (rest : List Char) :
    unsignedFrom limit 0 (Nat.toDigits 10 n ++ rest) = unsignedFrom limit n rest := by
  revert h rest
  refine decimal_induction (motive := fun n cs => n < limit → ∀ rest,
    unsignedFrom limit 0 (cs ++ rest) = unsignedFrom limit n rest) ?_ ?_ n
  · intro d hd hlimit rest
    simp [unsignedFrom, digit?_digitChar hd, hlimit]
  · intro n d hn hd ih hlimit rest
    rw [List.append_assoc, ih (by omega)]
    simp [unsignedFrom, digit?_digitChar hd, hlimit]

/-- A number below the limit reads back as it was written. -/
theorem unsigned_toString {limit n : Nat} (h : n < limit) :
    unsigned limit (toString n).toList = .ok n := by
  have hread := unsignedFrom_toDigits h []
  rw [List.append_nil] at hread
  rw [toList_toString]
  cases hdigits : Nat.toDigits 10 n with
  | nil => exact absurd hdigits Nat.toDigits_ne_nil
  | cons c cs =>
      -- A plus sign in front would be passed over, but a digit is none.
      have hplus : c ≠ '+' := by
        rintro rfl
        have hmem : '+' ∈ Nat.toDigits 10 n := by simp [hdigits]
        exact absurd (Nat.isDigit_of_mem_toDigits (by decide) (by decide) hmem) (by decide)
      rw [unsigned, ← hdigits, hread, unsignedFrom]
      all_goals simp_all

/-! ## Blanks around a number -/

def trimmed (cs : List Char) : List Char := trimEndChars (trimStartChars cs)

theorem trimStartChars_of_head {c : Char} {cs : List Char} (h : isBlank c = false) :
    trimStartChars (c :: cs) = c :: cs := by
  rw [trimStartChars, List.dropWhile_cons, h]
  rfl

theorem trimEndChars_append_blank {cs blanks : List Char} (h : ∀ c ∈ blanks, isBlank c = true) :
    trimEndChars (cs ++ blanks) = trimEndChars cs := by
  rw [trimEndChars, trimEndChars, List.reverse_append, List.dropWhile_append_of_pos]
  intro c hc
  exact h c (List.mem_reverse.mp hc)

/-- Blanks behind a text make no difference to it. -/
theorem trimmed_append_blank {cs blanks : List Char} (h : ∀ c ∈ blanks, isBlank c = true) :
    trimmed (cs ++ blanks) = trimmed cs := by
  rw [trimmed, trimmed, trimStartChars, trimStartChars, List.dropWhile_append]
  split
  · rename_i hempty
    have hblanks : blanks.dropWhile isBlank = [] := by
      rw [← List.append_nil blanks, List.dropWhile_append_of_pos h]
      rfl
    rw [hblanks, List.isEmpty_iff.mp hempty]
  · exact trimEndChars_append_blank h

theorem isBlank_of_isDigit {c : Char} (h : c.isDigit = true) : isBlank c = false := by
  obtain ⟨hlow, hhigh⟩ : 48 ≤ c.toNat ∧ c.toNat ≤ 57 := by
    simpa [Char.isDigit, UInt32.le_iff_toNat_le] using h
  simp [isBlank]
  omega

/-- A text ends in a number: there is nothing to trim behind it. -/
theorem trimEndChars_append_toString (cs : List Char) (n : Nat) :
    trimEndChars (cs ++ (toString n).toList) = cs ++ (toString n).toList := by
  rw [toList_toString]
  obtain ⟨ds, d, hds⟩ := List.eq_nil_or_concat (Nat.toDigits 10 n) |>.resolve_left
    Nat.toDigits_ne_nil
  have hmem : d ∈ Nat.toDigits 10 n := by simp [hds]
  have hd := isBlank_of_isDigit (Nat.isDigit_of_mem_toDigits (by decide) (by decide) hmem)
  simp [trimEndChars, hds, hd]

/-- Blanks in front of a number make no difference to it. -/
theorem trimmed_blank_toString (n : Nat) :
    trimmed (' ' :: (toString n).toList) = (toString n).toList := by
  have hstart : trimStartChars (' ' :: (toString n).toList) = (toString n).toList := by
    rw [toList_toString]
    obtain ⟨d, ds, hds⟩ := List.exists_cons_of_ne_nil (Nat.toDigits_ne_nil (n := n) (b := 10))
    have hmem : d ∈ Nat.toDigits 10 n := by simp [hds]
    have hd := isBlank_of_isDigit (Nat.isDigit_of_mem_toDigits (by decide) (by decide) hmem)
    rw [trimStartChars, List.dropWhile_cons_of_pos (by decide), ← trimStartChars, hds,
      trimStartChars_of_head hd]
  rw [trimmed, hstart]
  exact trimEndChars_append_toString [] n

end OutlineNav.Text
