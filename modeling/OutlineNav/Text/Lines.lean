/-!
# Lines

A text is cut into lines behind every line feed. The line feed belongs to the line that it ends,
with a carriage return in front of it. A last line may have no end.
-/

namespace OutlineNav.Text

/-- A text cut behind every line feed. -/
def cutLines : List Char → List (List Char)
  | [] => []
  | c :: cs =>
    if c = '\n' then [c] :: cutLines cs
    else
      match cutLines cs with
      | [] => [[c]]
      | line :: rest => (c :: line) :: rest

def withoutEnd (line : List Char) : List Char :=
  match line.reverse with
  | '\n' :: '\r' :: rest => rest.reverse
  | '\n' :: rest => rest.reverse
  | _ => line

def lines (s : String) : List String :=
  (cutLines s.toList).map fun line => String.ofList (withoutEnd line)

end OutlineNav.Text
