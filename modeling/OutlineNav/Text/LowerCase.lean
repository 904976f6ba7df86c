import OutlineNav.Text.CaseTable

/-!
# Lower-casing a text

`lowerCase` maps every character to its lower-case form. Two characters are special: a dotted
capital I becomes two characters, and a capital sigma at the end of a word becomes a final sigma.
-/

namespace OutlineNav.Text

/-- The lower-case form of one character by the simple mappings. -/
def lowerChar (c : Char) : Char :=
  if c.toNat < 0x80 then c.toLower
  else match caseRuns.find? (·.contains c.toNat) with
    | some run => Char.ofNat ((c.toNat : Int) + run.offset).toNat
    | none => c

/-- The nearest character that case does not pass over is cased. -/
def nextIsCased (chars : List Char) : Bool :=
  match chars.dropWhile (inRanges caseIgnorableRanges) with
  | c :: _ => inRanges casedRanges c
  | [] => false

/-- Lower-cases `rest`, with `before` the reversed text in front of it. -/
def lowerChars (before : List Char) : (rest : List Char) → List Char
  | [] => []
  | c :: rest =>
    let lowered :=
      if c = 'Σ' then if nextIsCased before && !nextIsCased rest then ['ς'] else ['σ']
      else if c = 'İ' then ['i', Char.ofNat 0x307]
      else [lowerChar c]
    lowered ++ lowerChars (c :: before) rest

def lowerCase (s : String) : String := String.ofList (lowerChars [] s.toList)

end OutlineNav.Text
