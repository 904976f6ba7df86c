import OutlineNav.Json.Basic
import OutlineNav.Language
import OutlineNav.Table
import OutlineNav.Text.Blank

/-!
# Configuration

The settings of the program: how language servers are run, what a move without a target does, and
how results are printed. Every setting has a default.
-/

namespace OutlineNav

def bytesPerMegabyte : Nat := 1048576

structure ServerSettings where
  timeoutSecs : UInt64
  /-- The size in MiB above which files are not sent to a server; zero means no limit. -/
  maxFileSizeMb : UInt32
  /-- Command lines that replace the known servers. -/
  commands : Table Language String

namespace ServerSettings

def initial : ServerSettings := ⟨30, 10, .empty⟩

instance : Inhabited ServerSettings := ⟨initial⟩

/-- The size in bytes above which files are not sent to a server. -/
def maxFileSize (s : ServerSettings) : Nat :=
  if s.maxFileSizeMb = 0 then UInt64.size - 1 else s.maxFileSizeMb.toNat * bytesPerMegabyte

/-- The program and the arguments of the command line for a language, if it has any word. -/
def command? (s : ServerSettings) (language : Language) : Option (String × List String) :=
  match (s.commands.get? language).map Text.words with
  | some (program :: arguments) => some (program, arguments)
  | _ => none

end ServerSettings

structure Config where
  servers : ServerSettings
  /-- A move without a target lands on the current symbol. -/
  fallbackToCurrent : Bool
  /-- The name of the output format. -/
  format : String

namespace Config

def initial : Config := ⟨.initial, true, "json"⟩

instance : Inhabited Config := ⟨initial⟩

/-! ## As JSON -/

def toJson (c : Config) : Json :=
  let command (language : Language) :=
    (language.name, (c.servers.commands.get? language).map Json.str)
  .object [
    ("lsp", .object [
      ("max_file_size_mb", .word c.servers.maxFileSizeMb),
      ("servers", .object (Json.present (Language.named.map command))),
      ("timeout_secs", .nat c.servers.timeoutSecs.toNat)]),
    ("navigation", .object [("fallback_to_current", .bool c.fallbackToCurrent)]),
    ("output", .object [("format", .str c.format)])]

end Config

end OutlineNav
