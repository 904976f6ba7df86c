import OutlineNav.Document.FilePath
import OutlineNav.Json.Decode
import OutlineNav.Text.LowerCase

/-!
# Programming languages

The languages with a language server known by default. A language is recognised by the extension of
a file or by a name that a user writes; it has one name in configuration files and one in the
language server protocol, which differ for an unknown language only.
-/

namespace OutlineNav

inductive Language where
  | rust
  | cpp
  | go
  | java
  | kotlin
  | csharp
  | typescript
  | javascript
  | python
  | lua
  | markdown
  | unknown
  deriving DecidableEq, Inhabited, Repr

namespace Language

def all : List Language :=
  [.rust, .cpp, .go, .java, .kotlin, .csharp, .typescript, .javascript, .python, .lua, .markdown]

/-- The name in configuration files. -/
def name : Language → String
  | .rust => "rust"
  | .cpp => "cpp"
  | .go => "go"
  | .java => "java"
  | .kotlin => "kotlin"
  | .csharp => "csharp"
  | .typescript => "typescript"
  | .javascript => "javascript"
  | .python => "python"
  | .lua => "lua"
  | .markdown => "markdown"
  | .unknown => "unknown"

/-- Every language that configuration files can name. -/
def named : List Language := all ++ [Language.unknown]

def ofName? (name : String) : Option Language := named.find? (·.name == name)

def names : List String := named.map name

/-- The identifier in the language server protocol. -/
def id : Language → String
  | .unknown => "plaintext"
  | language => language.name

def ofExtension (extension : String) : Language :=
  match Text.lowerCase extension with
  | "rs" => .rust
  | "c" | "cpp" | "cc" | "cxx" | "h" | "hpp" | "hxx" | "inl" => .cpp
  | "go" => .go
  | "java" => .java
  | "kt" | "kts" => .kotlin
  | "cs" => .csharp
  | "ts" | "tsx" | "mts" | "cts" => .typescript
  | "js" | "jsx" | "mjs" | "cjs" => .javascript
  | "py" | "pyi" => .python
  | "lua" => .lua
  | "md" | "markdown" => .markdown
  | _ => .unknown

def ofPath (path : String) : Language :=
  match FilePath.extension? path.toList with
  | some extension => ofExtension (String.ofList extension)
  | none => .unknown

def decode : Json.Decoder Language := Json.Decoder.variant ofName? names

def parse? (s : String) : Option Language :=
  match Text.lowerCase s with
  | "rust" | "rs" => some .rust
  | "cpp" | "c++" | "c" => some .cpp
  | "go" | "golang" => some .go
  | "java" => some .java
  | "kotlin" | "kt" => some .kotlin
  | "csharp" | "c#" | "cs" => some .csharp
  | "typescript" | "ts" => some .typescript
  | "javascript" | "js" => some .javascript
  | "python" | "py" => some .python
  | "lua" => some .lua
  | "markdown" | "md" => some .markdown
  | _ => none

def unknownMessage (s : String) : String := s!"Unknown language: {s}"

end Language

end OutlineNav
