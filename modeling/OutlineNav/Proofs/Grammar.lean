import OutlineNav.Json.Printer
import OutlineNav.Proofs.NumberTexts

/-!
# Rules of the grammar

What the reader of values does with the beginning of a text, as rules: from what it reads off the
parts of a text to what it reads off the whole. `gives_readValue_iff` says once what a value can
start with; the rules for items and members cover the first one and those behind a comma. A text is
read back from its quoted form because each character is read back from what it is written as
(`gives_readString_escapeChar`).
-/

namespace OutlineNav.Json

open Reader

variable {s t rest : List Char}

/-! ## Strings -/

theorem length_le_utf8Length (cs : List Char) : cs.length ≤ Text.utf8Length cs := by
  have h : ∀ n, n + cs.length ≤ cs.foldl (fun n c => n + c.utf8Size) n := by
    induction cs with
    | nil => intro n; exact Nat.le_refl n
    | cons c cs ih =>
        intro n
        have hc := c.utf8Size_pos
        have := ih (n + c.utf8Size)
        rw [List.foldl_cons, List.length_cons]
        omega
  simpa [Text.utf8Length] using h 0

theorem hexDigit?_digitChar : ∀ d < 16, Text.hexDigit? (Nat.digitChar d) = some d := by decide

theorem gives_readUnicodeEscape {c : Char} (hc : c.toNat < 0x20) :
    Gives (readUnicodeEscape
      ('0' :: '0' :: Nat.digitChar (c.toNat / 16) :: Nat.digitChar (c.toNat % 16) :: t)) c t := by
  have hhex : Gives (readHex
      ('0' :: '0' :: Nat.digitChar (c.toNat / 16) :: Nat.digitChar (c.toNat % 16) :: t))
      c.toNat t := by
    have hlength := length_le_utf8Length
      ('0' :: '0' :: Nat.digitChar (c.toNat / 16) :: Nat.digitChar (c.toNat % 16) :: t)
    simp only [List.length_cons] at hlength
    have hzero : Text.hexDigit? '0' = some 0 := by decide
    rw [readHex, if_neg (by omega)]
    simp only [hzero, hexDigit?_digitChar _ (by omega : c.toNat / 16 < 16),
      hexDigit?_digitChar _ (by omega : c.toNat % 16 < 16), gives_done, and_true]
    omega
  obtain ⟨hlt, heq⟩ := hhex
  have hlow : ¬ (0xDC00 ≤ c.toNat ∧ c.toNat ≤ 0xDFFF) := by omega
  have hhigh : ¬ (0xD800 ≤ c.toNat ∧ c.toNat ≤ 0xDBFF) := by omega
  refine ⟨hlt, ?_⟩
  simp only [readUnicodeEscape, heq, bind, Except.bind, if_neg hlow, if_neg hhigh,
    Char.ofNat_toNat]
  rfl

/-- A character behind a backslash that is read back as the escaped one. -/
theorem gives_readString_escaped {before : List Char} {c : Char} {key : String}
    (he : Gives (readEscape s) c t) (h : Gives (readString (c :: before) t) key rest) :
    Gives (readString before ('\\' :: s)) key rest := by
  obtain ⟨hlt, heq⟩ := he
  simpa [readString, heq] using h

theorem gives_readEscape_unicode {c : Char} (h : Gives (readUnicodeEscape s) c t) :
    Gives (readEscape ('u' :: s)) c t := by
  simpa [readEscape] using h

/-- A character is read back from the text that escaping gives it. -/
theorem gives_readString_escapeChar {before : List Char} {key : String} (c : Char)
    (h : Gives (readString (c :: before) t) key rest) :
    Gives (readString before ((escapeChar c).toList ++ t)) key rest := by
  generalize he : escapeChar c = e
  rw [escapeChar] at he
  have named (letter : Char) (hs : e.toList = ['\\', letter])
      (hletter : Gives (readEscape (letter :: t)) c t) :
      Gives (readString before (e.toList ++ t)) key rest := by
    rw [hs]
    exact gives_readString_escaped hletter h
  split at he
  · subst c
    exact named '"' (by simp [← he]) (by simp [readEscape])
  split at he
  · subst c
    exact named '\\' (by simp [← he]) (by simp [readEscape])
  split at he
  · subst c
    exact named 'n' (by simp [← he]) (by simp [readEscape])
  split at he
  · subst c
    exact named 'r' (by simp [← he]) (by simp [readEscape])
  split at he
  · subst c
    exact named 't' (by simp [← he]) (by simp [readEscape])
  split at he
  · subst c
    exact named 'b' (by simp [← he]) (by simp [readEscape])
  split at he
  · subst c
    exact named 'f' (by simp [← he]) (by simp [readEscape])
  split at he
  · rename_i hcontrol
    have hs : e.toList ++ t = '\\' :: 'u' :: '0' :: '0' :: Nat.digitChar (c.toNat / 16) ::
        Nat.digitChar (c.toNat % 16) :: t := by simp [← he]
    rw [hs]
    exact gives_readString_escaped (gives_readEscape_unicode (gives_readUnicodeEscape hcontrol)) h
  · rename_i hquote hbackslash _ _ _ _ _ hcontrol
    have hs : e.toList ++ t = c :: t := by simp [← he]
    rw [hs]
    simpa [readString, hquote, hbackslash, hcontrol] using h

theorem toList_quote (s : String) :
    (quote s).toList = '"' :: s.toList.flatMap (fun c => (escapeChar c).toList) ++ ['"'] := by
  have h : ∀ (cs : List Char) (out : String),
      (cs.foldl (fun out c => out ++ escapeChar c) out).toList =
        out.toList ++ cs.flatMap fun c => (escapeChar c).toList := by
    intro cs
    induction cs with
    | nil => simp
    | cons c cs ih => intro out; simp [ih]
  simp [quote, h]

theorem gives_readString_chars (before cs : List Char) : Gives (readString before
    (cs.flatMap (fun c => (escapeChar c).toList) ++ '"' :: t))
    (String.ofList (before.reverse ++ cs)) t := by
  induction cs generalizing before with
  | nil =>
      rw [List.flatMap_nil, List.nil_append]
      simp [readString]
  | cons c cs ih =>
      rw [List.flatMap_cons, List.append_assoc]
      refine gives_readString_escapeChar c ?_
      simpa using ih (c :: before)

/-- A quoted text is read behind its opening quote. -/
theorem gives_readString_quote (key : String) :
    ∃ s, (quote key).toList ++ t = '"' :: s ∧ Gives (readString [] s) key t := by
  refine ⟨key.toList.flatMap (fun c => (escapeChar c).toList) ++ '"' :: t, ?_, ?_⟩
  · simp [toList_quote]
  · simpa using gives_readString_chars [] key.toList

/-! ## Values -/

theorem skipSpace_of_head {c : Char} (h : isSpace c = false) : skipSpace (c :: s) = c :: s := by
  rw [skipSpace, List.dropWhile_cons, h]
  rfl

theorem skipSpace_skipSpace (s : List Char) : skipSpace (skipSpace s) = skipSpace s := by
  induction s with
  | nil => rfl
  | cons c s ih =>
      cases hc : isSpace c with
      | false => rw [skipSpace_of_head hc, skipSpace_of_head hc]
      | true =>
          have hskip : skipSpace (c :: s) = skipSpace s := List.dropWhile_cons_of_pos hc
          rw [hskip, ih]

section

variable {depth n : Nat} {v : Json}

/-- The members that a trace tells of, in the order of the text. -/
def members (trace : List Member) : List (String × Json) :=
  trace.filterMap fun m => m.value?.map fun v => (m.key, v.1)

/-- The reader reads the members and leaves `rest`. -/
def GivesMembers (r : List Member × Reader Unit n) (ms : List (String × Json))
    (rest : List Char) : Prop :=
  members r.1 = ms ∧ Gives r.2 () rest

/-- What reading a value gives, by the first character that is no blank. -/
theorem gives_readValue_iff {c : Char} (h : skipSpace s = c :: rest) :
    Gives (readValue depth s) v t ↔
      if c = 'n' then Gives (readWord .null ['u', 'l', 'l'] rest) v t
      else if c = 't' then Gives (readWord (.bool true) ['r', 'u', 'e'] rest) v t
      else if c = 'f' then Gives (readWord (.bool false) ['a', 'l', 's', 'e'] rest) v t
      else if c = '-' then Gives (readNegative rest) v t
      else if c = '"' then ∃ text, Gives (readString [] rest) text t ∧ .str text = v
      else if c = '[' then
        1 < depth ∧ ∃ vs, Gives (readItems (depth - 1) true rest) vs t ∧ .arr vs = v
      else if c = '\x7b' then
        1 < depth ∧ ∃ ms, GivesMembers (readMembers (depth - 1) true rest) ms t ∧
          .obj (sortMembers ms) = v
      else ∃ d, Text.digit? c = some d ∧ Gives (readNumber false d rest) v t := by
  rw [readValue.eq_def]
  split
  · rename_i hnil
    cases hnil.symm.trans h
  rename_i c' rest' hcons
  obtain ⟨rfl, rfl⟩ := List.cons.inj (hcons.symm.trans h)
  split
  · exact gives_widen
  split
  · exact gives_widen
  split
  · exact gives_widen
  split
  · exact gives_widen
  split
  · cases readString [] rest' with
    | error e => simp
    | ok p => grind [gives_ok, gives_done]
  split
  · split
    · simp [Nat.not_lt.mpr ‹depth ≤ 1›]
    · cases readItems (depth - 1) true rest' with
      | error e => simp
      | ok p => grind [gives_ok, gives_done]
  split
  · split
    · simp [Nat.not_lt.mpr ‹depth ≤ 1›]
    · obtain ⟨trace, result⟩ := readMembers (depth - 1) true rest'
      cases result with
      | error e => simp [GivesMembers]
      | ok p => simp [Nat.lt_of_not_le ‹¬ depth ≤ 1›, GivesMembers, membersOf, members, and_comm]
  · cases Text.digit? c' with
    | none => simp
    | some d => simp

/-- A text that a value is read off neither ends there nor closes an array. -/
theorem exists_start (h : Gives (readValue depth s) v t) :
    ∃ c s', skipSpace s = c :: s' ∧ c ≠ ']' := by
  cases hstart : skipSpace s with
  | nil =>
      rw [readValue.eq_def] at h
      split at h
      · simp at h
      · rename_i hcons
        cases hcons.symm.trans hstart
  | cons c s' =>
      refine ⟨c, s', rfl, ?_⟩
      rintro rfl
      have hdigit : Text.digit? ']' = none := by decide
      simpa [hdigit] using (gives_readValue_iff hstart).mp h

/-- Blanks in front of a value make no difference to it. -/
theorem gives_readValue_skipSpace (h : Gives (readValue depth s) v t) :
    Gives (readValue depth (skipSpace s)) v t := by
  obtain ⟨c, s', hstart, -⟩ := exists_start h
  have hagain := (skipSpace_skipSpace s).trans hstart
  exact (gives_readValue_iff hagain).mpr ((gives_readValue_iff hstart).mp h)

/-! ### Items -/

theorem gives_readItems_nil {first : Bool} : Gives (readItems depth first (']' :: t)) [] t := by
  have hstart : skipSpace (']' :: t) = ']' :: t := skipSpace_of_head (by decide)
  rw [readItems.eq_def]
  split
  · rename_i hcons
    obtain ⟨-, rfl⟩ := List.cons.inj (hcons.symm.trans hstart)
    exact gives_done.mpr ⟨rfl, rfl⟩
  · rename_i hne
    exact absurd hstart (hne t)

/-- What reading items gives, where an item starts. -/
theorem gives_readItems_iff {first : Bool} {u : List Char} {vs : List Json}
    (hopen : ∀ r, skipSpace s ≠ ']' :: r) (hstart : Gives (itemStart first (skipSpace s)) () u) :
    Gives (readItems depth first s) vs rest ↔ ∃ v t vs', Gives (readValue depth u) v t ∧
      Gives (readItems depth false t) vs' rest ∧ v :: vs' = vs := by
  obtain ⟨_, hstart⟩ := hstart
  rw [readItems.eq_def]
  split
  · rename_i hcons
    exact absurd hcons (hopen _)
  · simp only [hstart]
    cases readValue depth u with
    | error e => simp
    | ok p =>
        simp only [gives_ok, exists_and_left, and_assoc, exists_eq_left']
        generalize readItems depth false p.rest = r
        cases r with
        | error e => simp
        | ok q => simp [and_comm, and_assoc]

theorem gives_itemStart_first {c : Char} {s' : List Char} (hstart : skipSpace s = c :: s') :
    Gives (itemStart true (skipSpace s)) () (skipSpace s) := by
  rw [hstart]
  simp [itemStart]

theorem skipSpace_comma (s : List Char) : skipSpace (',' :: s) = ',' :: s :=
  skipSpace_of_head (by decide)

theorem gives_itemStart_next {c : Char} {s' : List Char} (hstart : skipSpace s = c :: s')
    (hc : c ≠ ']') : Gives (itemStart false (skipSpace (',' :: s))) () (skipSpace s) := by
  rw [skipSpace_comma]
  simp only [itemStart, Bool.false_eq_true, if_false, ne_eq, not_true_eq_false]
  split
  · rename_i hnil
    cases hnil.symm.trans hstart
  · rename_i hcons
    obtain ⟨rfl, rfl⟩ := List.cons.inj (hcons.symm.trans hstart)
    rw [if_neg hc, gives_done]
    exact ⟨rfl, hstart.symm⟩

/-- The first item. -/
theorem gives_readItems_first {vs : List Json} (hv : Gives (readValue depth s) v t)
    (hvs : Gives (readItems depth false t) vs rest) :
    Gives (readItems depth true s) (v :: vs) rest := by
  obtain ⟨c, s', hstart, hc⟩ := exists_start hv
  refine (gives_readItems_iff ?_ (gives_itemStart_first hstart)).mpr
    ⟨v, t, vs, gives_readValue_skipSpace hv, hvs, rfl⟩
  intro r hr
  exact hc (List.cons.inj (hstart.symm.trans hr)).1

/-- A further item. -/
theorem gives_readItems_next {vs : List Json} (hv : Gives (readValue depth s) v t)
    (hvs : Gives (readItems depth false t) vs rest) :
    Gives (readItems depth false (',' :: s)) (v :: vs) rest := by
  obtain ⟨c, s', hstart, hc⟩ := exists_start hv
  refine (gives_readItems_iff ?_ (gives_itemStart_next hstart hc)).mpr
    ⟨v, t, vs, gives_readValue_skipSpace hv, hvs, rfl⟩
  intro r hr
  cases (skipSpace_comma s).symm.trans hr

/-! ### Members -/

theorem gives_readMembers_nil {first : Bool} :
    GivesMembers (readMembers depth first ('\x7d' :: t)) [] t := by
  have hstart : skipSpace ('\x7d' :: t) = '\x7d' :: t := skipSpace_of_head (by decide)
  rw [readMembers.eq_def]
  split
  · rename_i hcons
    obtain ⟨-, rfl⟩ := List.cons.inj (hcons.symm.trans hstart)
    exact ⟨rfl, gives_done.mpr ⟨rfl, rfl⟩⟩
  · rename_i hne
    exact absurd hstart (hne t)

/-- What reading members gives, where a member starts. -/
theorem gives_readMembers_iff {first : Bool} {u w x : List Char} {key : String}
    {ms : List (String × Json)} (hopen : ∀ r, skipSpace s ≠ '\x7d' :: r)
    (hstart : Gives (keyStart first (skipSpace s)) () u) (hkey : Gives (readString [] u) key w)
    (hcolon : Gives (colonEnd w) () x) :
    GivesMembers (readMembers depth first s) ms rest ↔ ∃ v t ms', Gives (readValue depth x) v t ∧
      GivesMembers (readMembers depth false t) ms' rest ∧ (key, v) :: ms' = ms := by
  obtain ⟨_, hstart⟩ := hstart
  obtain ⟨_, hkey⟩ := hkey
  obtain ⟨_, hcolon⟩ := hcolon
  rw [readMembers.eq_def]
  split
  · rename_i hcons
    exact absurd hcons (hopen _)
  · simp only [hstart, hkey, hcolon]
    cases readValue depth x with
    | error e => simp [GivesMembers]
    | ok p =>
        simp only [gives_ok, exists_and_left, and_assoc, exists_eq_left']
        generalize readMembers depth false p.rest = r
        obtain ⟨trace, result⟩ := r
        cases result with
        | error e => simp [GivesMembers]
        | ok q => simp [GivesMembers, members, and_comm]

theorem gives_colonEnd : Gives (colonEnd (':' :: t)) () t := by
  have hcolon : skipSpace (':' :: t) = ':' :: t := skipSpace_of_head (by decide)
  rw [colonEnd]
  split
  · rename_i hnil
    cases hnil.symm.trans hcolon
  · rename_i hcons
    obtain ⟨rfl, rfl⟩ := List.cons.inj (hcons.symm.trans hcolon)
    simp

theorem skipSpace_quote (s : List Char) : skipSpace ('"' :: s) = '"' :: s :=
  skipSpace_of_head (by decide)

theorem gives_keyStart_first : Gives (keyStart true (skipSpace ('"' :: s))) () s := by
  rw [skipSpace_quote]
  simp [keyStart]

theorem gives_keyStart_next : Gives (keyStart false (skipSpace (',' :: '"' :: s))) () s := by
  rw [skipSpace_comma]
  simp only [keyStart, Bool.false_eq_true, if_false, ne_eq, not_true_eq_false]
  split
  · rename_i hnil
    cases hnil.symm.trans (skipSpace_quote s)
  · rename_i hcons
    obtain ⟨rfl, rfl⟩ := List.cons.inj (hcons.symm.trans (skipSpace_quote s))
    simp

/-- The first member. -/
theorem gives_readMembers_first {x : List Char} {key : String} {ms : List (String × Json)}
    (hkey : Gives (readString [] s) key (':' :: x)) (hv : Gives (readValue depth x) v t)
    (hms : GivesMembers (readMembers depth false t) ms rest) :
    GivesMembers (readMembers depth true ('"' :: s)) ((key, v) :: ms) rest := by
  refine (gives_readMembers_iff ?_ gives_keyStart_first hkey gives_colonEnd).mpr
    ⟨v, t, ms, hv, hms, rfl⟩
  intro r hr
  cases (skipSpace_quote s).symm.trans hr

/-- A further member. -/
theorem gives_readMembers_next {x : List Char} {key : String} {ms : List (String × Json)}
    (hkey : Gives (readString [] s) key (':' :: x)) (hv : Gives (readValue depth x) v t)
    (hms : GivesMembers (readMembers depth false t) ms rest) :
    GivesMembers (readMembers depth false (',' :: '"' :: s)) ((key, v) :: ms) rest := by
  refine (gives_readMembers_iff ?_ gives_keyStart_next hkey gives_colonEnd).mpr
    ⟨v, t, ms, hv, hms, rfl⟩
  intro r hr
  cases (skipSpace_comma _).symm.trans hr

end

end OutlineNav.Json
