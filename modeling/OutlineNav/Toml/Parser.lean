import OutlineNav.Text.Parsed
import OutlineNav.Toml.Layout
import OutlineNav.Toml.Number

/-!
# Reading configuration files

A reader of the grammar of configuration files over characters. A file is read line by line, where
a value may go on over several lines if it is an array or a string in triple quotes; what the lines
mean together is said in `OutlineNav.Toml.Layout`. Arrays and tables in braces may nest 79 levels
deep, and a key may have 79 parts.
-/

namespace OutlineNav.Toml

open Text (Parsed hexDigit? lt_behind le_behind succ_le_behind succ_le_succ_behind)

abbrev Reader (α : Type) (bound : Nat) := Option (Parsed α bound)

namespace Reader

variable {α : Type} {m n : Nat}

def done (value : α) (rest : List Char) (lt : rest.length < n) : Reader α n :=
  some ⟨value, rest, lt⟩

def widen (h : m ≤ n) (r : Reader α m) : Reader α n := r.map (·.widen h)

end Reader

open Reader

/-! ## Blanks, comments and line ends -/

def isBlank (c : Char) : Bool := c == ' ' || c == '\t'

/-- Characters of comments: all but control characters. -/
def isPlainChar (c : Char) : Bool := c == '\t' || 0x20 ≤ c.toNat && c.toNat != 0x7F

def skipBlanks (s : List Char) : List Char := s.dropWhile isBlank

theorem length_skipBlanks_le (s : List Char) : (skipBlanks s).length ≤ s.length :=
  (List.dropWhile_sublist isBlank).length_le

theorem length_lt_of_skipBlanks {s t : List Char} {c : Char} (h : skipBlanks s = c :: t) :
    t.length < s.length := by
  have := length_skipBlanks_le s
  rw [h, List.length_cons] at this
  omega

def skipComment : List Char → List Char
  | '#' :: rest => rest.dropWhile isPlainChar
  | s => s

theorem length_skipComment_le (s : List Char) : (skipComment s).length ≤ s.length := by
  unfold skipComment
  split
  · exact Nat.le_succ_of_le (List.dropWhile_sublist isPlainChar).length_le
  · exact Nat.le_refl _

def readNewline : (s : List Char) → Reader Unit s.length
  | '\n' :: rest => done () rest (lt_behind rest)
  | '\r' :: '\n' :: rest => done () rest (by grind)
  | _ => none

/-- The end of a line or of the file. -/
def readBreak : (s : List Char) → Reader Unit (s.length + 1)
  | [] => done () [] (lt_behind [])
  | c :: rest => (readNewline (c :: rest)).widen (le_behind (c :: rest))

/-- The end of a line or of the file, after blanks and a comment. -/
def readLineEnd (s : List Char) : Reader Unit (s.length + 1) :=
  (readBreak (skipComment (skipBlanks s))).widen (by
    have := length_skipBlanks_le s
    have := length_skipComment_le (skipBlanks s)
    omega)

/-- Blanks, comments and line ends inside an array. -/
def skipGaps (s : List Char) : Reader Unit (s.length + 1) :=
  match h : skipBlanks s with
  | '#' :: rest =>
    match readNewline (rest.dropWhile isPlainChar) with
    | some p =>
      have := length_lt_of_skipBlanks h
      have := (List.dropWhile_sublist isPlainChar (l := rest)).length_le
      have := p.lt
      (skipGaps p.rest).widen (by omega)
    | none => none
  | '\n' :: rest =>
    have := length_lt_of_skipBlanks h
    (skipGaps rest).widen (by omega)
  | '\r' :: '\n' :: rest =>
    have : rest.length < s.length := by have := length_lt_of_skipBlanks h; simp at this; omega
    (skipGaps rest).widen (by omega)
  | '\r' :: _ => none
  | rest => done () rest (by have := length_skipBlanks_le s; rw [h] at this; omega)
termination_by s.length

/-! ## Strings -/

def readCode : (digits : Nat) → (value : Nat) → (s : List Char) → Reader Char (s.length + 1)
  | 0, value, s => if value.isValidChar then done (Char.ofNat value) s (lt_behind s) else none
  | _ + 1, _, [] => none
  | digits + 1, value, c :: rest =>
    match hexDigit? c with
    | some d => (readCode digits (value * 16 + d) rest).widen (succ_le_succ_behind rest)
    | none => none

def readEscape : (s : List Char) → Reader Char s.length
  | [] => none
  | c :: rest =>
    let as (c : Char) := done c rest (lt_behind rest)
    if c = 'b' then as '\x08'
    else if c = 't' then as '\t'
    else if c = 'n' then as '\n'
    else if c = 'f' then as '\x0c'
    else if c = 'r' then as '\r'
    else if c = '"' ∨ c = '\\' then as c
    else if c = 'u' then (readCode 4 0 rest).widen (succ_le_behind rest)
    else if c = 'U' then (readCode 8 0 rest).widen (succ_le_behind rest)
    else none

/-- A string behind its quote; `before` is what was read of it, reversed. -/
def readQuoted (before : List Char) (s : List Char) : Reader String s.length :=
  match s with
  | [] => none
  | c :: rest =>
    if c = '"' then done (String.ofList before.reverse) rest (lt_behind rest)
    else if c = '\\' then
      match readEscape rest with
      | some ⟨e, rest', lt⟩ => (readQuoted (e :: before) rest').widen (by simp; omega)
      | none => none
    else if isPlainChar c then (readQuoted (c :: before) rest).widen (le_behind rest)
    else none
termination_by s.length
decreasing_by all_goals simp; try omega

def readLiteral (before : List Char) : (s : List Char) → Reader String s.length
  | [] => none
  | c :: rest =>
    if c = '\'' then done (String.ofList before.reverse) rest (lt_behind rest)
    else if isPlainChar c then (readLiteral (c :: before) rest).widen (le_behind rest)
    else none

/-- Blanks and line ends behind a backslash that ends its line. -/
def skipBlankLines : List Char → List Char
  | '\r' :: '\n' :: rest => skipBlankLines rest
  | c :: rest => if isBlank c || c == '\n' then skipBlankLines rest else c :: rest
  | [] => []

theorem length_skipBlankLines_le (s : List Char) : (skipBlankLines s).length ≤ s.length := by
  fun_induction skipBlankLines s with
  | case1 rest ih => simp; omega
  | case2 c rest _ _ ih => simp; omega
  | case3 => simp
  | case4 => simp

/-- The quotes at the end of a string in triple quotes: two more than the three that close it may
belong to the string. -/
def closingQuotes (quote : Char) (before : List Char) :
    (s : List Char) → Reader String (s.length + 1)
  | a :: b :: rest =>
    if a = quote ∧ b = quote then
      done (String.ofList (quote :: quote :: before).reverse) rest (by simp; omega)
    else if a = quote then done (String.ofList (quote :: before).reverse) (b :: rest) (by simp)
    else done (String.ofList before.reverse) (a :: b :: rest) (by simp)
  | [a] =>
    if a = quote then done (String.ofList (quote :: before).reverse) [] (by simp)
    else done (String.ofList before.reverse) [a] (by simp)
  | [] => done (String.ofList before.reverse) [] (by simp)

/-- A string in triple quotes, behind those that open it. -/
def readLong (quote : Char) (before : List Char) (s : List Char) : Reader String s.length :=
  match s with
  | [] => none
  | '\r' :: '\n' :: rest => (readLong quote ('\n' :: before) rest).widen (by simp; omega)
  | '\n' :: rest => (readLong quote ('\n' :: before) rest).widen (le_behind rest)
  | c :: rest =>
    if c = quote then
      match rest with
      | a :: b :: rest =>
        if a = quote ∧ b = quote then (closingQuotes quote before rest).widen (by simp)
        else (readLong quote (c :: before) (a :: b :: rest)).widen (by simp)
      | _ => none
    else if c = '\\' ∧ quote = '"' then
      match readNewline (skipBlanks rest) with
      | some p =>
        have := length_skipBlanks_le rest
        have := length_skipBlankLines_le p.rest
        have := p.lt
        (readLong quote before (skipBlankLines p.rest)).widen (by simp; omega)
      | none =>
        match readEscape rest with
        | some ⟨e, rest', lt⟩ => (readLong quote (e :: before) rest').widen (by simp; omega)
        | none => none
    else if isPlainChar c then (readLong quote (c :: before) rest).widen (le_behind rest)
    else none
termination_by s.length
decreasing_by all_goals simp; try omega

/-- A line end right behind the quotes that open a string does not belong to it. -/
def skipFirstNewline (s : List Char) : List Char :=
  match readNewline s with
  | some p => p.rest
  | none => s

theorem length_skipFirstNewline_le (s : List Char) : (skipFirstNewline s).length ≤ s.length := by
  unfold skipFirstNewline
  split
  · next p _ => exact Nat.le_of_lt p.lt
  · exact Nat.le_refl _

def readText (s : List Char) : Reader String s.length :=
  match s with
  | '"' :: '"' :: '"' :: rest =>
    (readLong '"' [] (skipFirstNewline rest)).widen (by
      have := length_skipFirstNewline_le rest; simp; omega)
  | '\'' :: '\'' :: '\'' :: rest =>
    (readLong '\'' [] (skipFirstNewline rest)).widen (by
      have := length_skipFirstNewline_le rest; simp; omega)
  | '"' :: rest => (readQuoted [] rest).widen (le_behind rest)
  | '\'' :: rest => (readLiteral [] rest).widen (le_behind rest)
  | _ => none

/-! ## Keys -/

/-- Characters of keys without quotes. -/
def isKeyChar (c : Char) : Bool := c.isAlphanum || c == '-' || c == '_'

def readKeyPart (s : List Char) : Reader String s.length :=
  match s with
  | [] => none
  | c :: rest =>
    if c = '"' then (readQuoted [] rest).widen (le_behind rest)
    else if c = '\'' then (readLiteral [] rest).widen (le_behind rest)
    else if isKeyChar c then
      done (String.ofList (c :: rest.takeWhile isKeyChar)) (rest.dropWhile isKeyChar) (by
        have := (List.dropWhile_sublist isKeyChar (l := rest)).length_le
        rw [List.length_cons]; omega)
    else none

/-- The most parts that a key may have, and the most levels that values may nest, plus one. -/
def depthLimit : Nat := 80

/-- A key with blanks around it and around its dots, whose parts `before` were read already,
reversed. -/
def readKey (before : List String) (s : List Char) : Reader Key s.length :=
  match readKeyPart (skipBlanks s) with
  | none => none
  | some part =>
    have := length_skipBlanks_le s
    have := part.lt
    match h : skipBlanks part.rest with
    | '.' :: rest =>
      have := length_lt_of_skipBlanks h
      (readKey (part.value :: before) rest).widen (by omega)
    | rest =>
      have := length_skipBlanks_le part.rest
      if before.length + 1 < depthLimit then
        done ⟨before.reverse, part.value⟩ rest (by simp_all; omega)
      else none
termination_by s.length

/-! ## Values -/

/-- Characters of values without quotes and brackets. -/
def isRunChar (c : Char) : Bool :=
  c.isAlphanum || c == '+' || c == '-' || c == '_' || c == '.' || c == ':'

/-- A value without quotes and brackets whose first character is `c`. A single blank may stand
between a date and a time. -/
def readRun (c : Char) (rest : List Char) : Reader Toml (rest.length + 1) :=
  let run := c :: rest.takeWhile isRunChar
  have := (List.dropWhile_sublist isRunChar (l := rest)).length_le
  match h : rest.dropWhile isRunChar with
  | ' ' :: d :: tail =>
    if (Date.read? run).any (·.2.isEmpty) ∧ d.isDigit then
      (plain? (run ++ ' ' :: d :: tail.takeWhile isRunChar)).bind fun v =>
        done v (tail.dropWhile isRunChar) (by
          have := (List.dropWhile_sublist isRunChar (l := tail)).length_le
          grind)
    else (plain? run).bind fun v => done v (' ' :: d :: tail) (by grind)
  | tail => (plain? run).bind fun v => done v tail (by grind)

mutual

/-- A value that may hold `depth - 1` levels of arrays and tables in braces. -/
def readValue (depth : Nat) (s : List Char) : Reader Toml s.length :=
  match s with
  | [] => none
  | c :: rest =>
    if c = '"' ∨ c = '\'' then
      match readText (c :: rest) with
      | some p => done (.string p.value) p.rest p.lt
      | none => none
    else if c = '[' then
      if depth ≤ 1 then none
      else match readItems (depth - 1) rest with
        | some p => done (.array p.value) p.rest (by have := p.lt; simp; omega)
        | none => none
    else if c = '\x7b' then
      if depth ≤ 1 then none
      else match readSettings (depth - 1) true rest with
        | some p => (ofSettings p.value).bind fun v =>
          done v p.rest (by have := p.lt; simp; omega)
        | none => none
    else if isRunChar c then readRun c rest
    else none
termination_by 3 * s.length

/-- The items of an array up to its closing bracket. -/
def readItems (depth : Nat) (s : List Char) : Reader (List Toml) s.length :=
  match skipGaps s with
  | none => none
  | some gap =>
    have := gap.lt
    match h : gap.rest with
    | ']' :: rest => done [] rest (by simp_all)
    | start =>
      match readValue depth start with
      | none => none
      | some v =>
        match skipGaps v.rest with
        | none => none
        | some gap' =>
          match h' : gap'.rest with
          | ',' :: rest =>
            have : rest.length < s.length := by
              have := v.lt; have := gap'.lt; simp_all; omega
            match readItems depth rest with
            | some vs => done (v.value :: vs.value) vs.rest (by have := vs.lt; omega)
            | none => none
          | ']' :: rest =>
            done [v.value] rest (by have := v.lt; have := gap'.lt; simp_all; omega)
          | _ => none
termination_by 3 * s.length + 1

/-- The settings of a table in braces up to its closing brace. -/
def readSettings (depth : Nat) (first : Bool) (s : List Char) :
    Reader (List (Key × Toml)) s.length :=
  match h : skipBlanks s with
  | '\x7d' :: rest => if first then done [] rest (length_lt_of_skipBlanks h) else none
  | _ =>
    match readSetting depth s with
    | none => none
    | some p =>
      have := p.lt
      match h' : skipBlanks p.rest with
      | ',' :: rest =>
        have := length_lt_of_skipBlanks h'
        match readSettings depth false rest with
        | some ps =>
          done (p.value :: ps.value) ps.rest
            (Nat.lt_trans ps.lt (Nat.lt_trans (length_lt_of_skipBlanks h') p.lt))
        | none => none
      | '\x7d' :: rest => done [p.value] rest (Nat.lt_trans (length_lt_of_skipBlanks h') p.lt)
      | _ => none
termination_by 3 * s.length + 2

def readSetting (depth : Nat) (s : List Char) : Reader (Key × Toml) s.length :=
  match readKey [] s with
  | none => none
  | some key =>
    have := key.lt
    match h : key.rest with
    | '=' :: rest =>
      have : rest.length < s.length := by have := key.lt; simp_all; omega
      have := length_skipBlanks_le rest
      match readValue depth (skipBlanks rest) with
      | some v => done (key.value, v.value) v.rest (by have := v.lt; omega)
      | none => none
    | _ => none
termination_by 3 * s.length + 1

end

/-! ## Lines -/

/-- A header behind the brackets that open it. -/
def readHeader (closing : List Char) (s : List Char) : Reader Key (s.length + 1) :=
  match readKey [] s with
  | none => none
  | some key =>
    if closing.isPrefixOf key.rest then
      (readLineEnd (key.rest.drop closing.length)).bind fun p =>
        done key.value p.rest (by
          have := key.lt; have := p.lt; simp at this; omega)
    else none

/-- The header of a table, or of an element of an array of tables, behind the bracket that opens
it. -/
def readTable (start : List Char) : Reader Line (start.length + 1) :=
  match start with
  | '[' :: rest => (readHeader [']', ']'] rest).bind fun p =>
    done (.element p.value) p.rest (Nat.lt_succ_of_lt p.lt)
  | rest => (readHeader [']'] rest).bind fun p => done (.table p.value) p.rest p.lt

def readLines (s : List Char) : Option (List Line) :=
  match h : skipBlanks s with
  | [] => some []
  | c :: start =>
    have := length_lt_of_skipBlanks h
    if c = '#' then
      match readBreak (start.dropWhile isPlainChar) with
      | some p =>
        have := p.lt
        have := (List.dropWhile_sublist isPlainChar (l := start)).length_le
        readLines p.rest
      | none => none
    else if c = '\n' ∨ c = '\r' then
      match readNewline (c :: start) with
      | some p =>
        have := p.lt
        readLines p.rest
      | none => none
    else if c = '[' then
      match readTable start with
      | some p =>
        have := p.lt
        (readLines p.rest).map (p.value :: ·)
      | none => none
    else
      match readSetting depthLimit (c :: start) with
      | none => none
      | some p =>
        match readLineEnd p.rest with
        | some e =>
          have := p.lt
          have := e.lt
          (readLines e.rest).map (.setting p.value.1 p.value.2 :: ·)
        | none => none
termination_by s.length
decreasing_by all_goals simp_all; try omega

/-- The table that a whole text writes. A byte order mark in front is ignored. -/
def parse? (text : List Char) : Option Entries :=
  match text with
  | '\uFEFF' :: rest => (readLines rest).bind ofLines
  | s => (readLines s).bind ofLines

end OutlineNav.Toml
