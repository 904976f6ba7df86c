import OutlineNav.Proofs.LineColumns

/-!
# Locations in text

A text is cut in two at the first colon in front of a digit, unless a colon in front of a minus sign
comes before it (`splitPlace?_eq_some_iff`). A drive letter and its colon are set aside first
(`splitDrive_of_alpha`); whether a text starts with them depends on nothing behind the colon that
ends the file (`hasDrive_append`). So the place of a location can be written anew, and the file that
is read in front of it stays the same (`parse_of_split`).

Every location that is accepted is therefore read again from its own text (`accepted_stable`). A
file without a colon is read as it was written with any place behind it (`parse_plain_location`),
unless it is a single letter, which is taken for a drive (`letter_read_as_drive`).
-/

namespace OutlineNav

open Text (isBlank trimmed)

/-! ## Trimmed texts -/

theorem Text.trimmed_append_word {c : Char} {cs : List Char} (h : isBlank c = false)
    (n : UInt32) : trimmed (c :: cs ++ (toString n).toList) = c :: cs ++ (toString n).toList := by
  rw [trimmed, List.cons_append, trimStartChars_of_head h, ← List.cons_append]
  exact trimEndChars_append_toString (c :: cs) n.toNat

theorem Text.trimEndChars_prefix (cs : List Char) : trimEndChars cs <+: cs := by
  have hsuffix := List.dropWhile_suffix (l := cs.reverse) isBlank
  have hprefix := List.reverse_prefix.mpr hsuffix
  rwa [List.reverse_reverse] at hprefix

/-- What is left of a text does not start with a blank. -/
theorem Text.isBlank_head_trimmed {cs rest : List Char} {c : Char} (h : trimmed cs = c :: rest) :
    isBlank c = false := by
  obtain ⟨behind, hprefix⟩ := trimEndChars_prefix (trimStartChars cs)
  rw [← trimmed, h] at hprefix
  have hhead := List.head?_dropWhile_not isBlank cs
  rw [← trimStartChars, ← hprefix] at hhead
  exact hhead

namespace Location

theorem isDigit_eq (c : Char) : isDigit c = c.isDigit := by
  rw [Bool.eq_iff_iff]
  simp [isDigit, Char.isDigit, Char.le_def]

/-! ## The first colon in front of a digit -/

/-- The character is no colon in front of a digit or a minus sign. -/
def Passes (c : Char) (rest : List Char) : Prop :=
  c = ':' → ∀ d, rest.head? = some d → isDigit d = false ∧ d ≠ '-'

/-- No colon of the text stands in front of a digit or a minus sign. -/
def Unmarked (cs : List Char) : Prop := ∀ d, [':', d] <:+: cs → isDigit d = false ∧ d ≠ '-'

/-- The text of a place starts with a digit. -/
def StartsWithDigit (cs : List Char) : Prop := ∃ d, cs.head? = some d ∧ isDigit d = true

theorem StartsWithDigit.ne_nil {cs : List Char} (h : StartsWithDigit cs) : cs ≠ [] := by
  rintro rfl
  obtain ⟨d, hd, -⟩ := h
  cases hd

theorem exists_mark {c : Char} {rest : List Char} (h : ¬Passes c rest) :
    c = ':' ∧ ∃ d ds, rest = d :: ds ∧ (isDigit d = true ∨ d = '-') := by
  by_contra hmark
  refine h fun hc d hd => ?_
  obtain ⟨ds, rfl⟩ := List.head?_eq_some_iff.mp hd
  exact ⟨Bool.eq_false_iff.mpr fun hdigit => hmark ⟨hc, d, ds, rfl, .inl hdigit⟩,
    fun hminus => hmark ⟨hc, d, ds, rfl, .inr hminus⟩⟩

theorem unmarked_nil : Unmarked [] := fun _ h => nomatch List.infix_nil.mp h

theorem unmarked_cons {c : Char} {cs : List Char} :
    Unmarked (c :: cs) ↔ Passes c cs ∧ Unmarked cs := by
  constructor
  · intro h
    refine ⟨?_, fun d hsub => h d (List.infix_cons_iff.mpr (.inr hsub))⟩
    rintro rfl d hd
    obtain ⟨rest, rfl⟩ := List.head?_eq_some_iff.mp hd
    exact h d ⟨[], rest, rfl⟩
  · rintro ⟨hpass, hcs⟩ d hsub
    rcases List.infix_cons_iff.mp hsub with hstart | hsub
    · obtain ⟨hc, rest, hrest⟩ := List.cons_prefix_cons.mp hstart
      exact hpass hc.symm d (by rw [← hrest]; rfl)
    · exact hcs d hsub

theorem unmarked_of_not_mem {cs : List Char} (h : ':' ∉ cs) : Unmarked cs := fun _ hsub =>
  absurd (hsub.subset List.mem_cons_self) h

theorem splitPlace?_cons {c : Char} {rest : List Char} (h : Passes c rest) :
    splitPlace? (c :: rest) = (splitPlace? rest).map fun (before, after, negative) =>
      (c :: before, after, negative) := by
  rw [splitPlace?.eq_def]
  by_cases hc : c = ':'
  · cases rest with
    | nil => exact if_pos hc
    | cons d rest =>
        obtain ⟨hd, hminus⟩ := h hc d rfl
        simp only [hc, hd, hminus, if_true, if_false, Bool.false_eq_true]
  · exact if_neg hc

theorem splitPlace?_colon_cons {d : Char} {ds : List Char} (h : isDigit d = true ∨ d = '-') :
    splitPlace? (':' :: d :: ds) = some ([], d :: ds, !isDigit d) := by
  rw [splitPlace?.eq_def]
  rcases h with hdigit | rfl
  · simp only [hdigit, if_true, Bool.not_true]
  · rfl

theorem splitPlace?_append {file place : List Char} (hfile : Unmarked file)
    (hplace : StartsWithDigit place) :
    splitPlace? (file ++ ':' :: place) = some (file, place, false) := by
  induction file with
  | nil =>
      obtain ⟨d, hd, hdigit⟩ := hplace
      obtain ⟨ds, rfl⟩ := List.head?_eq_some_iff.mp hd
      rw [List.nil_append, splitPlace?_colon_cons (.inl hdigit), hdigit]
      rfl
  | cons c file ih =>
      obtain ⟨hpass, hrest⟩ := unmarked_cons.mp hfile
      -- Behind the last character of the file stands the colon, which is no mark itself.
      have hpass' : Passes c (file ++ ':' :: place) := by
        intro hc d hd
        cases file with
        | nil => cases hd; decide
        | cons e file => exact hpass hc d hd
      rw [List.cons_append, splitPlace?_cons hpass', ih hrest]
      rfl

theorem parts_of_splitPlace? {cs file place : List Char}
    (h : splitPlace? cs = some (file, place, false)) :
    cs = file ++ ':' :: place ∧ Unmarked file ∧ StartsWithDigit place := by
  induction cs generalizing file with
  | nil => cases h
  | cons c rest ih =>
      by_cases hpass : Passes c rest
      · rw [splitPlace?_cons hpass] at h
        obtain ⟨⟨before, after, negative⟩, hrest, hparts⟩ := Option.map_eq_some_iff.mp h
        cases hparts
        obtain ⟨rfl, hbefore, hplace⟩ := ih hrest
        refine ⟨rfl, unmarked_cons.mpr ⟨fun hc d hd => hpass hc d ?_, hbefore⟩, hplace⟩
        rw [List.head?_append, hd]
        rfl
      · obtain ⟨rfl, d, ds, rfl, hmark⟩ := exists_mark hpass
        rw [splitPlace?_colon_cons hmark, Option.some.injEq, Prod.mk.injEq, Prod.mk.injEq] at h
        obtain ⟨rfl, rfl, hdigit⟩ := h
        exact ⟨rfl, unmarked_nil, d, rfl, by simpa using hdigit⟩

/-- A text is cut at the first colon in front of a digit or a minus sign, if that is a digit. -/
theorem splitPlace?_eq_some_iff {cs file place : List Char} :
    splitPlace? cs = some (file, place, false) ↔
      cs = file ++ ':' :: place ∧ Unmarked file ∧ StartsWithDigit place :=
  ⟨parts_of_splitPlace?, fun ⟨hcs, hfile, hplace⟩ => hcs ▸ splitPlace?_append hfile hplace⟩

/-! ## Drives -/

/-- The text starts with a letter and a colon, and goes on behind them. -/
def HasDrive (cs : List Char) : Prop :=
  ∃ letter rest, cs = letter :: ':' :: rest ∧ letter.isAlpha = true ∧ rest ≠ []

theorem splitDrive_of_alpha {letter : Char} {rest : List Char} (hletter : letter.isAlpha = true)
    (hrest : rest ≠ []) : splitDrive (letter :: ':' :: rest) = ([letter, ':'], rest) := by
  obtain ⟨c, cs, rfl⟩ := List.exists_cons_of_ne_nil hrest
  rw [splitDrive, if_pos hletter]

theorem splitDrive_of_not_hasDrive {cs : List Char} (h : ¬HasDrive cs) :
    splitDrive cs = ([], cs) := by
  rw [splitDrive.eq_def]
  split
  · rename_i letter c rest
    have hletter : letter.isAlpha ≠ true := fun hletter =>
      h ⟨letter, c :: rest, rfl, hletter, nofun⟩
    rw [if_neg hletter]
  · rfl

theorem append_of_splitDrive {cs drive rest : List Char} (h : splitDrive cs = (drive, rest)) :
    cs = drive ++ rest := by
  by_cases hdrive : HasDrive cs
  · obtain ⟨letter, behind, rfl, hletter, hne⟩ := hdrive
    rw [splitDrive_of_alpha hletter hne] at h
    cases h
    rfl
  · rw [splitDrive_of_not_hasDrive hdrive] at h
    cases h
    rfl

/-- Whether a text starts with a drive is told by the file, with the colon behind it, alone. -/
theorem hasDrive_append {file place : List Char} (h : place ≠ []) :
    HasDrive (file ++ ':' :: place) ↔
    ∃ letter rest, file ++ [':'] = letter :: ':' :: rest ∧ letter.isAlpha = true := by
  constructor
  · rintro ⟨letter, rest, hcs, hletter, -⟩
    rcases file with _ | ⟨c, _ | ⟨d, file⟩⟩
    · cases hcs
      exact absurd hletter (by decide)
    · cases hcs
      exact ⟨letter, [], rfl, hletter⟩
    · cases hcs
      exact ⟨letter, file ++ [':'], rfl, hletter⟩
  · rintro ⟨letter, rest, hcs, hletter⟩
    rcases file with _ | ⟨c, _ | ⟨d, file⟩⟩
    · cases hcs
    · cases hcs
      exact ⟨letter, place, rfl, hletter, h⟩
    · cases hcs
      exact ⟨letter, file ++ ':' :: place, rfl, hletter, by simp⟩

/-- The place of a text can be replaced without a change to the drive in front. -/
theorem splitDrive_replace {cs drive file place place' : List Char}
    (h : splitDrive cs = (drive, file ++ ':' :: place)) (hplace : place ≠ [])
    (hplace' : place' ≠ []) :
    splitDrive (drive ++ file ++ ':' :: place') = (drive, file ++ ':' :: place') := by
  by_cases hdrive : HasDrive cs
  · obtain ⟨letter, rest, rfl, hletter, hne⟩ := hdrive
    rw [splitDrive_of_alpha hletter hne] at h
    cases h
    exact splitDrive_of_alpha hletter (by simp)
  · rw [splitDrive_of_not_hasDrive hdrive] at h
    cases h
    rw [hasDrive_append hplace, ← hasDrive_append hplace'] at hdrive
    exact splitDrive_of_not_hasDrive hdrive

/-! ## Reading a location -/

/-- The text is read as a place, and starts and ends with a number. -/
structure IsPlaceText (cs : List Char) (p : LineColumn) : Prop where
  parse : LineColumn.parse cs = .ok p
  starts : StartsWithDigit cs
  ends : ∃ before, ∃ n : UInt32, cs = before ++ (toString n).toList

theorem startsWithDigit_word (n : UInt32) (cs : List Char) :
    StartsWithDigit ((toString n).toList ++ cs) := by
  have hdigit (c : Char) (h : c ∈ (toString n).toList) : isDigit c = true := by
    rw [isDigit_eq]
    exact Text.isDigit_of_mem_word h
  rw [Text.toList_word] at hdigit ⊢
  obtain ⟨d, ds, hds⟩ := List.exists_cons_of_ne_nil (Nat.toDigits_ne_nil (n := n.toNat) (b := 10))
  rw [hds] at hdigit ⊢
  exact ⟨d, rfl, hdigit d List.mem_cons_self⟩

theorem isPlaceText_text {p : LineColumn} (h : p.Counted) : IsPlaceText p.text.toList p where
  parse := LineColumn.parse_text h
  starts := LineColumn.toList_text p ▸ startsWithDigit_word p.line _
  ends := ⟨(toString p.line).toList ++ [':'], p.column, by simp [LineColumn.toList_text]⟩

theorem isPlaceText_line {line : UInt32} (h : 1 ≤ line) :
    IsPlaceText (toString line).toList ⟨line, 1⟩ where
  parse := LineColumn.parse_line h
  starts := List.append_nil (toString line).toList ▸ startsWithDigit_word line []
  ends := ⟨[], line, rfl⟩

/-- There is nothing to trim around a place behind a text that does not start with a blank. -/
theorem IsPlaceText.trimmed_append {cs place : List Char} {p : LineColumn} (h : IsPlaceText place p)
    (hblank : ∀ c, (cs ++ [':']).head? = some c → isBlank c = false) :
    trimmed (cs ++ ':' :: place) = cs ++ ':' :: place := by
  obtain ⟨before, n, rfl⟩ := h.ends
  obtain ⟨c, front, hfront⟩ := List.exists_cons_of_ne_nil (l := cs ++ [':']) (by simp)
  have hsplit : cs ++ ':' :: (before ++ (toString n).toList) =
      c :: (front ++ before) ++ (toString n).toList :=
    calc cs ++ ':' :: (before ++ (toString n).toList)
      _ = cs ++ [':'] ++ before ++ (toString n).toList := by simp
      _ = c :: (front ++ before) ++ (toString n).toList := by rw [hfront, List.cons_append]
  rw [hsplit]
  exact Text.trimmed_append_word (hblank c (by rw [hfront]; rfl)) n

/-- Reading, by what stands behind the drive. -/
theorem parse_eq {input : String} {drive rest : List Char} (hne : trimmed input.toList ≠ [])
    (hdrive : splitDrive (trimmed input.toList) = (drive, rest)) :
    parse input = match splitPlace? rest with
      | none => .error .noPosition
      | some (_, _, true) => .error .negativeLine
      | some (file, place, false) =>
        (LineColumn.parse place).map (⟨String.ofList (drive ++ file), ·⟩) := by
  obtain ⟨c, cs, hcs⟩ := List.exists_cons_of_ne_nil hne
  rw [parse, ← trimmed, hcs]
  simp only [← hcs, hdrive]
  rfl

/-- The text in front of the place, once a drive is set aside, is the file behind the drive. -/
theorem parse_of_split {text : String} {drive file place : List Char} {p : LineColumn}
    (htext : text.toList = drive ++ file ++ ':' :: place)
    (hblank : ∀ c, (drive ++ file ++ [':']).head? = some c → isBlank c = false)
    (hdrive : splitDrive text.toList = (drive, file ++ ':' :: place)) (hfile : Unmarked file)
    (hplace : IsPlaceText place p) : parse text = .ok ⟨String.ofList (drive ++ file), p⟩ := by
  have htrim : trimmed text.toList = text.toList := by
    rw [htext]
    exact hplace.trimmed_append hblank
  have hne : trimmed text.toList ≠ [] := by
    rw [htrim, htext]
    simp
  rw [← htrim] at hdrive
  rw [parse_eq hne hdrive]
  simp only [splitPlace?_append hfile hplace.starts, hplace.parse]
  rfl

/-- What a location was read from: the file, behind its drive, and the place around a colon. -/
theorem parts_of_parse {input : String} {l : Location} (h : parse input = .ok l) :
    ∃ drive file place, splitDrive (trimmed input.toList) = (drive, file ++ ':' :: place) ∧
      Unmarked file ∧ StartsWithDigit place ∧ LineColumn.parse place = .ok l.place ∧
      l.file = String.ofList (drive ++ file) := by
  by_cases hne : trimmed input.toList = []
  · rw [parse, ← trimmed, hne] at h
    cases h
  obtain ⟨⟨drive, rest⟩, hdrive⟩ : ∃ parts, splitDrive (trimmed input.toList) = parts := ⟨_, rfl⟩
  rw [parse_eq hne hdrive] at h
  cases hsplit : splitPlace? rest with
  | none => rw [hsplit] at h; cases h
  | some parts =>
      obtain ⟨file, place, _ | _⟩ := parts
      · rw [hsplit] at h
        obtain ⟨p, hp, rfl⟩ := Except.map_eq_ok_iff.mp h
        obtain ⟨rfl, hfile, hplace⟩ := splitPlace?_eq_some_iff.mp hsplit
        exact ⟨drive, file, place, hdrive, hfile, hplace, hp, rfl⟩
      · rw [hsplit] at h; cases h

/-! ## Written locations -/

theorem toList_text (l : Location) :
    l.text.toList = l.file.toList ++ ':' :: l.place.text.toList := by
  simp [text, ToString.toString]

/-- A location that was read counts from one, and is read again from its own text. -/
theorem accepted_stable {input : String} {l : Location} (h : parse input = .ok l) :
    1 ≤ l.place.line ∧ 1 ≤ l.place.column ∧ parse l.text = .ok l := by
  obtain ⟨drive, file, place, hdrive, hfile, hdigit, hplace, hname⟩ := parts_of_parse h
  have hcounted := LineColumn.counted_of_parse hplace
  have hwritten := isPlaceText_text hcounted
  have htext : l.text.toList = drive ++ file ++ ':' :: l.place.text.toList := by
    rw [toList_text, hname, String.toList_ofList]
  have hblank (c : Char) (hc : (drive ++ file ++ [':']).head? = some c) : isBlank c = false := by
    obtain ⟨rest, hrest⟩ := List.head?_eq_some_iff.mp hc
    have hinput : trimmed input.toList = c :: (rest ++ place) :=
      calc trimmed input.toList
        _ = drive ++ file ++ [':'] ++ place := by simp [append_of_splitDrive hdrive]
        _ = c :: (rest ++ place) := by rw [hrest, List.cons_append]
    exact Text.isBlank_head_trimmed hinput
  have hdrive' := splitDrive_replace hdrive hdigit.ne_nil hwritten.starts.ne_nil
  rw [← htext] at hdrive'
  refine ⟨hcounted.line, hcounted.column, ?_⟩
  rw [parse_of_split htext hblank hdrive' hfile hwritten, ← hname]

/-- A file on a drive whose name has a colon of its own, with blanks around it, a leading zero and a
sign. -/
theorem accepted_stable_drive :
    parse "\t C::a b:x:007:+2 " = .ok ⟨"C::a b:x", ⟨7, 2⟩⟩ ∧
    (1 : UInt32) ≤ 7 ∧ (1 : UInt32) ≤ 2 ∧
    parse "C::a b:x:7:2" = .ok ⟨"C::a b:x", ⟨7, 2⟩⟩ :=
  have h : parse "\t C::a b:x:007:+2 " = .ok ⟨"C::a b:x", ⟨7, 2⟩⟩ := by rfl
  ⟨h, accepted_stable h⟩

/-! ### Files without a colon -/

section

variable {file : String} {line column : UInt32} {p : LineColumn}

/-- The text is a single letter, which in front of a colon is taken for a drive. -/
def IsLetter (cs : List Char) : Prop := ∃ letter, cs = [letter] ∧ letter.isAlpha = true

theorem hasDrive_iff_isLetter {cs place : List Char} (hcolon : ':' ∉ cs) (hplace : place ≠ []) :
    HasDrive (cs ++ ':' :: place) ↔ IsLetter cs := by
  rw [hasDrive_append hplace]
  constructor
  · rintro ⟨letter, rest, hcs, hletter⟩
    rcases cs with _ | ⟨c, _ | ⟨d, cs⟩⟩
    · cases hcs
    · cases hcs
      exact ⟨letter, rfl, hletter⟩
    · cases hcs
      exact absurd (List.mem_cons_of_mem _ List.mem_cons_self) hcolon
  · rintro ⟨letter, rfl, hletter⟩
    exact ⟨letter, [], rfl, hletter⟩

theorem splitPlace?_of_not_mem {cs : List Char} (h : ':' ∉ cs) : splitPlace? cs = none := by
  induction cs with
  | nil => rfl
  | cons c cs ih =>
      have hpass : Passes c cs := fun hc => absurd (hc ▸ List.mem_cons_self) h
      rw [splitPlace?_cons hpass, ih fun hmem => h (List.mem_cons_of_mem c hmem)]
      rfl

/-- A file and a line, without a column. -/
def lineText (file : String) (line : UInt32) : String := s!"{file}:{line}"

theorem toList_lineText (file : String) (line : UInt32) :
    (lineText file line).toList = file.toList ++ ':' :: (toString line).toList := by
  simp [lineText, ToString.toString]

theorem isBlank_head_append {cs : List Char} (h : ∀ c, cs.head? = some c → isBlank c = false) :
    ∀ c, (cs ++ [':']).head? = some c → isBlank c = false := by
  intro c hc
  cases cs with
  | nil => cases hc; decide
  | cons d cs => exact h c hc

theorem parse_behind_file {input : String} {place : List Char} (hplace : IsPlaceText place p)
    (hinput : input.toList = file.toList ++ ':' :: place) (hcolon : ':' ∉ file.toList)
    (hblank : ∀ c, file.toList.head? = some c → isBlank c = false)
    (hletter : ¬IsLetter file.toList) : parse input = .ok ⟨file, p⟩ := by
  rw [← hasDrive_iff_isLetter hcolon hplace.starts.ne_nil, ← hinput] at hletter
  have hdrive := splitDrive_of_not_hasDrive hletter
  have htext : input.toList = [] ++ file.toList ++ ':' :: place := hinput
  have hname : String.ofList ([] ++ file.toList) = file := String.ofList_toList
  rw [parse_of_split htext (isBlank_head_append hblank) (hdrive.trans (by rw [hinput]))
    (unmarked_of_not_mem hcolon) hplace, hname]

/-- The number behind a drive belongs to the file. -/
theorem parse_drive (hblank : ∀ c, file.toList.head? = some c → isBlank c = false)
    (hcolumn : 1 ≤ column) (hletter : IsLetter file.toList) :
    parse (text ⟨file, ⟨line, column⟩⟩) = .ok ⟨lineText file line, ⟨column, 1⟩⟩ := by
  obtain ⟨letter, hfile, hletter⟩ := hletter
  have htext : (text ⟨file, ⟨line, column⟩⟩).toList =
      [letter, ':'] ++ (toString line).toList ++ ':' :: (toString column).toList := by
    rw [toList_text, LineColumn.toList_text, hfile]
    rfl
  have hdrive : splitDrive (text ⟨file, ⟨line, column⟩⟩).toList =
      ([letter, ':'], (toString line).toList ++ ':' :: (toString column).toList) := by
    rw [htext]
    exact splitDrive_of_alpha hletter (by simp)
  have hname : String.ofList ([letter, ':'] ++ (toString line).toList) = lineText file line := by
    rw [← String.toList_inj, toList_lineText, hfile, String.toList_ofList]
    rfl
  have hhead (c : Char) (hc : ([letter, ':'] ++ (toString line).toList ++ [':']).head? = some c) :
      isBlank c = false := hblank c (by rw [hfile]; exact hc)
  rw [parse_of_split htext hhead hdrive (unmarked_of_not_mem (Text.colon_not_mem_word line))
    (isPlaceText_line hcolumn), hname]

theorem parse_drive_line (hblank : ∀ c, file.toList.head? = some c → isBlank c = false)
    (hline : 1 ≤ line) (hletter : IsLetter file.toList) :
    parse (lineText file line) = .error .noPosition := by
  have htrim : trimmed (lineText file line).toList = (lineText file line).toList := by
    rw [toList_lineText]
    exact (isPlaceText_line hline).trimmed_append (isBlank_head_append hblank)
  obtain ⟨letter, hfile, hletter⟩ := hletter
  have hdrive : splitDrive (trimmed (lineText file line).toList) =
      ([letter, ':'], (toString line).toList) := by
    rw [htrim, toList_lineText, hfile]
    exact splitDrive_of_alpha hletter (isPlaceText_line hline).starts.ne_nil
  have hne : trimmed (lineText file line).toList ≠ [] := by
    rw [htrim, toList_lineText]
    simp
  rw [parse_eq hne hdrive]
  simp only [splitPlace?_of_not_mem (Text.colon_not_mem_word line)]

/-- A file without a colon and the place behind it are read as they were written, with or without a
column, unless the file is a single letter: then the first number belongs to the file, on the drive
of that letter, and only what follows it can be the place. -/
theorem parse_plain_location (hcolon : ':' ∉ file.toList)
    (hblank : ∀ c, file.toList.head? = some c → isBlank c = false) (hline : 1 ≤ line)
    (hcolumn : 1 ≤ column) :
    (¬IsLetter file.toList →
      parse (text ⟨file, ⟨line, column⟩⟩) = .ok ⟨file, ⟨line, column⟩⟩ ∧
      parse (lineText file line) = .ok ⟨file, ⟨line, 1⟩⟩) ∧
    (IsLetter file.toList →
      parse (text ⟨file, ⟨line, column⟩⟩) = .ok ⟨lineText file line, ⟨column, 1⟩⟩ ∧
      parse (lineText file line) = .error .noPosition) := by
  refine ⟨fun hletter => ⟨?_, ?_⟩, fun hletter => ⟨?_, ?_⟩⟩
  · exact parse_behind_file (isPlaceText_text ⟨hline, hcolumn⟩) (toList_text _) hcolon hblank
      hletter
  · exact parse_behind_file (isPlaceText_line hline) (toList_lineText file line) hcolon hblank
      hletter
  · exact parse_drive hblank hcolumn hletter
  · exact parse_drive_line hblank hline hletter

end

/-- A file of a single letter that is no drive. -/
theorem parse_plain_location_accented :
    ':' ∉ "é".toList ∧ (∀ c, "é".toList.head? = some c → isBlank c = false) ∧
    (1 : UInt32) ≤ 10 ∧ (1 : UInt32) ≤ 5 ∧ ¬IsLetter "é".toList ∧
    parse (text ⟨"é", ⟨10, 5⟩⟩) = .ok ⟨"é", ⟨10, 5⟩⟩ ∧
    parse (lineText "é" 10) = .ok ⟨"é", ⟨10, 1⟩⟩ :=
  have hcolon : ':' ∉ "é".toList := by decide
  have hblank : ∀ c, "é".toList.head? = some c → isBlank c = false := by
    rintro _ ⟨⟩
    decide
  have hletter : ¬IsLetter "é".toList := by
    rintro ⟨_, ⟨⟩, hletter⟩
    exact absurd hletter (by decide)
  ⟨hcolon, hblank, by decide, by decide, hletter,
    (parse_plain_location hcolon hblank (by decide) (by decide)).1 hletter⟩

/-- What is written of the file `a`, line 1 and column 2 is read as line 2 of `a:1`. -/
theorem letter_read_as_drive :
    "a" ≠ "" ∧ ':' ∉ "a".toList ∧ (∀ c, "a".toList.head? = some c → isBlank c = false) ∧
    parse (text ⟨"a", ⟨1, 2⟩⟩) = .ok ⟨"a:1", ⟨2, 1⟩⟩ ∧
    parse (text ⟨"a", ⟨1, 2⟩⟩) ≠ .ok ⟨"a", ⟨1, 2⟩⟩ ∧
    parse "a:1" ≠ .ok ⟨"a", ⟨1, 1⟩⟩ := by
  have hread : parse (text ⟨"a", ⟨1, 2⟩⟩) = .ok ⟨"a:1", ⟨2, 1⟩⟩ := by rfl
  have hline : parse "a:1" = .error .noPosition := by rfl
  refine ⟨by decide, by decide, ?_, hread, ?_, ?_⟩
  · rintro _ ⟨⟩
    decide
  · rw [hread]
    decide
  · rw [hline]
    nofun

end Location

end OutlineNav
