import OutlineNav.Text.Blank
import OutlineNav.Text.LowerCase

/-!
# Output formats

Results are printed as JSON for programs or as text for people.
-/

namespace OutlineNav

inductive OutputFormat where
  | json
  | text
  deriving DecidableEq, Inhabited, Repr

namespace OutputFormat

def name : OutputFormat → String
  | .json => "json"
  | .text => "text"

def all : List OutputFormat := [.json, .text]

def ofName? (name : String) : Option OutputFormat := all.find? (·.name == name)

/-- How a written name is compared: without blanks around it, in lower case. -/
def plainName (s : String) : String := Text.lowerCase (Text.trim s)

def parse? (s : String) : Option OutputFormat := ofName? (plainName s)

def unknownMessage (s : String) : String := s!"Unknown output format '{plainName s}'"

end OutputFormat

end OutlineNav
