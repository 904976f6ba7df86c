import OutlineNav.Json.Parser
import OutlineNav.Proofs.Decimals

/-!
# Numbers inside a text

A reader of numbers goes on as long as what it sees can belong to a number. So a number that is a
whole text is read as the same number where the text goes on, provided that what follows cannot
belong to it (`Stops`); and an integer is read off its digits.
-/

namespace OutlineNav.Json

open Reader
open Text (digit?)

/-! ## What a reader gives -/

/-- The reader reads the value and leaves `rest`. -/
def Gives {α : Type} {n : Nat} (r : Reader α n) (a : α) (rest : List Char) : Prop :=
  ∃ h, r = .ok ⟨a, rest, h⟩

section

variable {α : Type} {m n : Nat} {a b : α} {s t : List Char}

@[simp] theorem gives_ok {p : Text.Parsed α n} :
    Gives (.ok p : Reader α n) a t ↔ p.value = a ∧ p.rest = t := by
  obtain ⟨b, s, hs⟩ := p
  simp only [Gives, Except.ok.injEq, Text.Parsed.mk.injEq]
  constructor
  · rintro ⟨_, heq⟩
    exact heq
  · rintro ⟨rfl, rfl⟩
    exact ⟨hs, rfl, rfl⟩

@[simp] theorem not_gives_error {e : SyntaxError} : ¬ Gives (.error e : Reader α n) a t := by
  simp [Gives]

@[simp] theorem gives_done {h : s.length < n} : Gives (done b s h) a t ↔ b = a ∧ s = t :=
  gives_ok

@[simp] theorem gives_widen {r : Reader α m} {h : m ≤ n} :
    Gives (r.widen h) a t ↔ Gives r a t := by
  cases r with
  | error e => exact iff_of_false not_gives_error not_gives_error
  | ok p => exact (gives_ok (p := p.widen h)).trans (gives_ok (p := p)).symm

@[simp] theorem not_gives_failAt {cause : SyntaxCause} :
    ¬ Gives (failAt cause s : Reader α n) a t := not_gives_error

@[simp] theorem not_gives_failOn {cause : SyntaxCause} :
    ¬ Gives (failOn cause s : Reader α n) a t := not_gives_error

end

/-! ## The end of a number -/

/-- What follows does not belong to a number. -/
def Stops (t : List Char) : Prop :=
  ∀ c ∈ t.head?, digit? c = none ∧ c ≠ '.' ∧ c ≠ 'e' ∧ c ≠ 'E'

variable {negative raises any : Bool} {significand scale : Nat} {point : Int} {v : Json}
  {s t rest : List Char}

@[simp] theorem gives_readParts : Gives (readParts negative significand point s) v t ↔
    ∃ d, Double.ofParts? negative significand.toUInt64 point = some d ∧ .float d = v ∧ s = t := by
  rw [readParts]
  split <;> simp_all

theorem skipDigits_append (s : List Char) (ht : Stops t) :
    (skipDigits (s ++ t)).val = (skipDigits s).val ++ t := by
  induction s with
  | nil =>
      cases t with
      | nil => rfl
      | cons c t => simp [skipDigits, (ht c rfl).1]
  | cons c s ih =>
      rw [List.cons_append, skipDigits, skipDigits]
      cases hc : digit? c with
      | none => rfl
      | some d => exact ih

/-- A number that is the whole text stays the same number in front of what does not belong to it. -/
def IsLocal (reader : (s : List Char) → Reader Json (s.length + 1)) : Prop :=
  ∀ s t v, Gives (reader s) v [] → Stops t → Gives (reader (s ++ t)) v t

theorem readExponentDigits_local (scale : Nat) :
    IsLocal (readExponentDigits negative significand point raises scale) := by
  intro s t v h ht
  induction s generalizing scale with
  | nil =>
      cases t with
      | nil => exact h
      | cons c t => simpa [readExponentDigits, (ht c rfl).1] using h
  | cons c s ih =>
      rw [readExponentDigits] at h
      rw [List.cons_append, readExponentDigits]
      cases hc : digit? c with
      | none => simp [hc] at h
      | some d =>
          simp only [hc] at h ⊢
          split at h
          · rename_i hscale
            simpa [hscale] using ih _ (gives_widen.mp h)
          · rename_i hscale
            split at h
            · simp at h
            · rename_i hzero
              obtain ⟨x, hx, hv, hs⟩ := gives_readParts.mp (gives_widen.mp h)
              rw [if_neg hscale, if_neg hzero, gives_widen, gives_readParts]
              exact ⟨x, hx, hv, by rw [skipDigits_append s ht, hs, List.nil_append]⟩

theorem readExponentStart_local :
    IsLocal (readExponentStart negative significand point raises) := by
  intro s t v h ht
  cases s with
  | nil => simp [readExponentStart] at h
  | cons c s =>
      rw [readExponentStart] at h
      rw [List.cons_append, readExponentStart]
      cases hc : digit? c with
      | none => simp [hc] at h
      | some d =>
          simp only [hc, gives_widen] at h ⊢
          exact readExponentDigits_local d s t v h ht

theorem readExponent_unsigned (h : ∀ c ∈ s.head?, c ≠ '+' ∧ c ≠ '-') :
    readExponent negative significand point s =
      readExponentStart negative significand point true s := by
  cases s with
  | nil => rfl
  | cons c s =>
      obtain ⟨hplus, hminus⟩ := h c rfl
      rw [readExponent]
      · simpa using hplus
      · simpa using hminus

theorem readExponent_local : IsLocal (readExponent negative significand point) := by
  intro s t v h ht
  cases s with
  | nil => simp [readExponent, readExponentStart] at h
  | cons c s =>
      rw [List.cons_append]
      by_cases hsign : c = '+' ∨ c = '-'
      · rcases hsign with rfl | rfl
        all_goals
          simp only [readExponent, gives_widen] at h ⊢
          exact readExponentStart_local s t v h ht
      · rw [not_or] at hsign
        rw [readExponent_unsigned (by simpa using hsign)] at h ⊢
        exact readExponentStart_local (c :: s) t v h ht

theorem readAfterFraction_end (h : ∀ c ∈ s.head?, c ≠ 'e' ∧ c ≠ 'E') :
    readAfterFraction negative significand point s = readParts negative significand point s := by
  cases s with
  | nil => rfl
  | cons c s =>
      obtain ⟨hlower, hupper⟩ := h c rfl
      rw [readAfterFraction]
      · simpa using hlower
      · simpa using hupper

theorem readAfterFraction_local : IsLocal (readAfterFraction negative significand point) := by
  intro s t v h ht
  cases s with
  | nil =>
      rw [List.nil_append, readAfterFraction_end fun c hc => (ht c hc).2.2]
      simpa [readAfterFraction] using h
  | cons c s =>
      rw [List.cons_append]
      by_cases hletter : c = 'e' ∨ c = 'E'
      · rcases hletter with rfl | rfl
        all_goals
          simp only [readAfterFraction, gives_widen] at h ⊢
          exact readExponent_local s t v h ht
      · rw [not_or] at hletter
        rw [readAfterFraction_end (by simpa using hletter)] at h
        simp at h

theorem readFraction_local : IsLocal (readFraction negative significand point any) := by
  intro s t v h ht
  induction s generalizing significand point any with
  | nil =>
      cases any with
      | false => simp [readFraction] at h
      | true =>
          have hend := readAfterFraction_local [] t v (by simpa [readFraction] using h) ht
          cases t with
          | nil => exact h
          | cons c t => simpa [readFraction, (ht c rfl).1] using hend
  | cons c s ih =>
      rw [readFraction] at h
      rw [List.cons_append, readFraction]
      cases hc : digit? c with
      | none =>
          cases any with
          | false => simp [hc] at h
          | true =>
              have hend := readAfterFraction_local (c :: s) t v (by simpa [hc] using h) ht
              simpa [hc] using hend
      | some d =>
          simp only [hc] at h ⊢
          split at h
          · rename_i hfits
            rw [if_pos hfits, gives_widen]
            exact ih (gives_widen.mp h)
          · rename_i hfits
            -- Digits that do not fit any more are dropped up to the end of the number.
            have hend := readAfterFraction_local _ t v (gives_widen.mp h) ht
            rw [← skipDigits_append s ht] at hend
            rw [if_neg hfits, gives_widen]
            exact hend

theorem readLongInteger_local : IsLocal (readLongInteger negative significand point) := by
  intro s t v h ht
  induction s generalizing point with
  | nil =>
      cases t with
      | nil => exact h
      | cons c t =>
          obtain ⟨hdigit, hpoint, hletter⟩ := ht c rfl
          have hend := @readAfterFraction_end negative significand point (c :: t)
            (by simpa using hletter)
          simpa [readLongInteger, hdigit, hpoint, hend] using h
  | cons c s ih =>
      rw [readLongInteger] at h
      rw [List.cons_append, readLongInteger]
      cases hc : digit? c with
      | some d =>
          simp only [hc, gives_widen] at h ⊢
          exact ih h
      | none =>
          simp only [hc] at h ⊢
          split at h
          · rename_i hpoint
            rw [if_pos hpoint, gives_widen]
            exact readFraction_local s t v (gives_widen.mp h) ht
          · rename_i hpoint
            rw [if_neg hpoint]
            exact readAfterFraction_local (c :: s) t v h ht

theorem readAfterInteger_end (h : ∀ c ∈ s.head?, c ≠ '.' ∧ c ≠ 'e' ∧ c ≠ 'E') :
    readAfterInteger negative significand s =
      done (integerValue negative significand) s (Text.lt_behind s) := by
  cases s with
  | nil => rfl
  | cons c s =>
      obtain ⟨hpoint, hlower, hupper⟩ := h c rfl
      rw [readAfterInteger]
      · simpa using hpoint
      · simpa using hlower
      · simpa using hupper

theorem gives_readAfterInteger (ht : Stops t) :
    Gives (readAfterInteger negative significand t) (integerValue negative significand) t := by
  rw [readAfterInteger_end fun c hc => (ht c hc).2]
  exact gives_done.mpr ⟨rfl, rfl⟩

theorem readAfterInteger_local : IsLocal (readAfterInteger negative significand) := by
  intro s t v h ht
  cases s with
  | nil =>
      obtain ⟨rfl, -⟩ := gives_done.mp h
      exact gives_readAfterInteger ht
  | cons c s =>
      rw [List.cons_append]
      by_cases hpoint : c = '.'
      · subst hpoint
        simp only [readAfterInteger, gives_widen] at h ⊢
        exact readFraction_local s t v h ht
      · by_cases hletter : c = 'e' ∨ c = 'E'
        · rcases hletter with rfl | rfl
          all_goals
            simp only [readAfterInteger, gives_widen] at h ⊢
            exact readExponent_local s t v h ht
        · rw [not_or] at hletter
          rw [readAfterInteger_end (by simpa using ⟨hpoint, hletter⟩)] at h
          simp at h

theorem readIntegerDigits_local : IsLocal (readIntegerDigits negative significand) := by
  intro s t v h ht
  induction s generalizing significand with
  | nil =>
      have hend := readAfterInteger_local [] t v h ht
      cases t with
      | nil => exact h
      | cons c t => simpa [readIntegerDigits, (ht c rfl).1] using hend
  | cons c s ih =>
      rw [readIntegerDigits] at h
      rw [List.cons_append, readIntegerDigits]
      cases hc : digit? c with
      | none =>
          simp only [hc] at h ⊢
          exact readAfterInteger_local (c :: s) t v h ht
      | some d =>
          simp only [hc] at h ⊢
          split at h
          · rename_i hfits
            rw [if_pos hfits, gives_widen]
            exact ih (gives_widen.mp h)
          · rename_i hfits
            rw [if_neg hfits]
            exact readLongInteger_local (c :: s) t v h ht

theorem readNumber_local (first : Nat) : IsLocal (readNumber negative first) := by
  intro s t v h ht
  rw [readNumber] at h ⊢
  split at h
  · rename_i hzero
    rw [if_pos hzero]
    split at h
    · simp at h
    · rename_i hhead
      have hhead' : ¬ ((s ++ t).head?.any fun d => (digit? d).isSome) = true := by
        cases s with
        | nil =>
            cases t with
            | nil => simp
            | cons c t => simp [(ht c rfl).1]
        | cons c s => simpa using hhead
      rw [if_neg hhead']
      exact readAfterInteger_local s t v h ht
  · rename_i hzero
    rw [if_neg hzero]
    exact readIntegerDigits_local s t v h ht

theorem readNegative_local : IsLocal readNegative := by
  intro s t v h ht
  cases s with
  | nil => simp [readNegative] at h
  | cons c s =>
      rw [readNegative] at h
      rw [List.cons_append, readNegative]
      cases hc : digit? c with
      | none => simp [hc] at h
      | some d =>
          simp only [hc, gives_widen] at h ⊢
          exact readNumber_local d s t v h ht

/-! ## Integers -/

/-- The digits of a number lead the reader to it. -/
theorem gives_readIntegerDigits_toDigits {n : Nat} (hn : n < UInt64.size)
    (h : Gives (readIntegerDigits negative n s) v rest) :
    Gives (readIntegerDigits negative 0 (Nat.toDigits 10 n ++ s)) v rest := by
  revert hn s h
  refine Text.decimal_induction (motive := fun n cs => ∀ {s}, n < UInt64.size →
    Gives (readIntegerDigits negative n s) v rest →
      Gives (readIntegerDigits negative 0 (cs ++ s)) v rest) ?_ ?_ n
  · intro d hd s hn h
    simpa [readIntegerDigits, Text.digit?_digitChar hd, hn] using h
  · intro n d hn hd ih s hsize h
    rw [List.append_assoc]
    refine ih (by omega) ?_
    simpa [readIntegerDigits, Text.digit?_digitChar hd, hsize] using h

/-- A number behind its first digit. -/
theorem exists_gives_readNumber {n : Nat} (hn : n < UInt64.size) (ht : Stops t) :
    ∃ d ds, d < 10 ∧ Nat.toDigits 10 n = Nat.digitChar d :: ds ∧
      Gives (readNumber negative d (ds ++ t)) (integerValue negative n) t := by
  have hend : Gives (readIntegerDigits negative n t) (integerValue negative n) t := by
    have hend := @gives_readAfterInteger negative n t ht
    cases t with
    | nil => exact hend
    | cons c t => simpa [readIntegerDigits, (ht c rfl).1] using hend
  rcases Nat.eq_zero_or_pos n with rfl | hpos
  · refine ⟨0, [], by decide, rfl, ?_⟩
    have hhead : ¬ (t.head?.any fun d => (digit? d).isSome) = true := by
      cases t with
      | nil => simp
      | cons c t => simp [(ht c rfl).1]
    rw [List.nil_append, readNumber, if_pos rfl, if_neg hhead]
    exact gives_readAfterInteger ht
  · obtain ⟨d, ds, hd, hd', hds⟩ := Text.exists_leading_digit hpos
    refine ⟨d, ds, hd', hds, ?_⟩
    have h := gives_readIntegerDigits_toDigits hn hend
    have hsize : d < UInt64.size := Nat.lt_trans hd' (by decide)
    rw [hds, List.cons_append, readIntegerDigits] at h
    simp only [Text.digit?_digitChar hd', Nat.zero_mul, Nat.zero_add, hsize, if_true,
      gives_widen] at h
    rwa [readNumber, if_neg (by omega)]

end OutlineNav.Json
