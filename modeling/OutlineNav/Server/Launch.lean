import OutlineNav.Configuration.Basic

/-!
# Known servers

The language server that is started for a language: a default for every known language, replaced by
the configured command line if that has any word.
-/

namespace OutlineNav.Server

/-- How a language server is started. -/
structure Launch where
  /-- The name of the server in messages. -/
  name : String
  command : String
  arguments : List String
  /-- What to do if the server is not installed. -/
  hint : String
  deriving DecidableEq, Repr

namespace Launch

/-- A server that is called like its command. -/
def plain (command : String) (arguments : List String) (hint : String) : Launch :=
  ⟨command, command, arguments, hint⟩

def line (l : Launch) : String := " ".intercalate (l.command :: l.arguments)

def typescript : Launch :=
  plain "typescript-language-server" ["--stdio"]
    "npm install -g typescript typescript-language-server"

def known? : Language → Option Launch
  | .rust => some (plain "rust-analyzer" [] "rustup component add rust-analyzer")
  | .cpp =>
    some (plain "clangd" ["--background-index"]
      "Install clangd from https://clangd.llvm.org/installation")
  | .go => some (plain "gopls" [] "go install golang.org/x/tools/gopls@latest")
  | .java =>
    some (plain "jdtls" [] "Download from https://download.eclipse.org/jdtls/snapshots/")
  | .kotlin =>
    some (plain "kotlin-language-server" []
      "Download from https://github.com/fwcd/kotlin-language-server/releases")
  | .csharp => some (plain "csharp-ls" [] "dotnet tool install -g csharp-ls")
  | .typescript | .javascript => some typescript
  | .python =>
    some { plain "pyright-langserver" ["--stdio"] "npm install -g pyright" with name := "pyright" }
  | .lua =>
    some (plain "lua-language-server" []
      "Download from https://github.com/LuaLS/lua-language-server/releases")
  | .markdown =>
    some (plain "marksman" ["server"]
      "Download from https://github.com/artempyanykh/marksman/releases")
  | .unknown => none

/-- What to do if a configured command cannot be found. -/
def configuredHint : String := "Check the command configured under [lsp.servers]"

/-- The server of a language under the given settings. -/
def resolve? (settings : ServerSettings) (language : Language) : Option Launch :=
  match settings.command? language with
  | some (program, arguments) => some (plain program arguments configuredHint)
  | none => known? language

/-- What is said about a server that is not installed. -/
def missingMessage (l : Launch) : String := s!"{l.name} is not installed. Install: {l.hint}"

end Launch

end OutlineNav.Server
