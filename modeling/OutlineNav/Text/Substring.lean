/-!
# Finding a word inside a text
-/

namespace OutlineNav.Text

/-- Some run of characters of the text is `word`. -/
def containsChars (word : List Char) : (text : List Char) → Bool
  | [] => word.isEmpty
  | c :: rest => word.isPrefixOf (c :: rest) || containsChars word rest

def contains (text word : String) : Bool := containsChars word.toList text.toList

end OutlineNav.Text
