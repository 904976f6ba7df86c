import OutlineNav.Configuration.Basic
import OutlineNav.Toml.Basic
import OutlineNav.Toml.Quoted

/-!
# The text of a configuration

A configuration as the text of a configuration file that reads back as the same configuration. The
format has integers of sixty-four bits with sign only, so a longer timeout has no text.
-/

namespace OutlineNav.Config

def settingLine (key value : String) : String := s!"{key} = {value}\n"

def sectionText (name : String) (settings : List (String × String)) : String :=
  s!"[{name}]\n" ++ String.join (settings.map fun (key, value) => settingLine key value)

def text? (c : Config) : Option String :=
  if c.servers.timeoutSecs.toNat < Toml.integerLimit then
    some <| "\n".intercalate [
      sectionText "lsp" [("timeout_secs", toString c.servers.timeoutSecs),
        ("max_file_size_mb", toString c.servers.maxFileSizeMb)],
      sectionText "lsp.servers" (Language.named.filterMap fun language =>
        (c.servers.commands.get? language).map fun line => (language.name, Toml.quoted line)),
      sectionText "navigation" [("fallback_to_current", toString c.fallbackToCurrent)],
      sectionText "output" [("format", Toml.quoted c.format)]]
  else none

/-- The text, or what is said if there is none. -/
def text (c : Config) : String :=
  c.text?.getD "Failed to render config: out-of-range value for u64 type"

end OutlineNav.Config
