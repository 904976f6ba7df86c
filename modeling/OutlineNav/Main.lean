import OutlineNav.CommandLine.Program
import OutlineNav.Text.Lines

/-!
# The program at a command line

Runs the program with the files of the operating system. No language servers are started from here:
symbols come from a recording. Lines of an editor are answered as they come.
-/

namespace OutlineNav.Main

open CommandLine (Finish Invocation Scene Surroundings)

/-! ## Files -/

def fileError : IO.Error → FileError
  | .noFileOrDirectory _ number detail | .interrupted _ number detail
  | .alreadyExists _ number detail | .invalidArgument _ number detail
  | .permissionDenied _ number detail | .resourceExhausted _ number detail
  | .inappropriateType _ number detail | .noSuchThing _ number detail
  | .otherError number detail | .resourceBusy number detail | .resourceVanished number detail
  | .unsupportedOperation number detail | .hardwareFault number detail
  | .unsatisfiedConstraints number detail | .illegalOperation number detail
  | .protocolError number detail | .timeExpired number detail => .ofNumber number.toNat detail
  | .unexpectedEof => .invalidText
  | .userError detail => .other detail

def attempt {α : Type} (act : IO α) : IO (Except FileError α) := do
  return match ← act.toBaseIO with
    | .ok a => .ok a
    | .error e => .error (fileError e)

def canonical (path : String) : IO (Except FileError String) :=
  attempt do return (← IO.FS.realPath path).toString

def files : Files IO where
  canonical := canonical
  read path := attempt do return (← IO.FS.readBinFile path).toList
  write path bytes := attempt (IO.FS.writeBinFile path ⟨bytes.toArray⟩)
  createFolders path := attempt (IO.FS.createDirAll path)
  present path := return (← canonical path).toOption.isSome

/-! ## Surroundings -/

/-- The variable that names the folder of the user. -/
def homeVariable : String := "HOME"

def surroundings : IO (Surroundings IO Empty) := do
  let folder ← attempt IO.currentDir
  let values ← Config.variableNames.mapM fun name => return (name, ← IO.getEnv name)
  let environment : Environment := fun name => (Named.lookup? name values).join
  let home? := (← IO.getEnv homeVariable).filter (· ≠ "")
  match folder with
  | .ok folder => return ⟨folder.toString, environment, home?, files, Server.Processes.absent⟩
  | .error e => throw (.userError e.message)

/-! ## Running -/

def say (text : String) : IO Unit := do
  let output ← IO.getStdout
  output.putStr text
  output.flush

/-- Answers the lines of the input until it ends. -/
partial def edit (scene : Scene (StateT (Pool Empty) IO)) (editor : Editor)
    (pool : Pool Empty) : IO Finish := do
  match ← attempt (do (← IO.getStdin).getLine) with
  | .error e => CommandLine.endEditing scene pool (some e)
  | .ok "" => CommandLine.endEditing scene pool none
  | .ok line =>
    let line := String.ofList (Text.withoutEnd line.toList)
    let (answer, editor, pool) ← CommandLine.editLine scene editor pool line
    say answer
    edit scene editor pool

def run (invocation : Invocation) : IO Finish := do
  match ← (← surroundings).start invocation with
  | .finished finish => return finish
  | .editing scene editor pool => edit scene editor pool

end OutlineNav.Main

def main (words : List String) : IO UInt32 := do
  let finish ← match OutlineNav.CommandLine.Invocation.parse words with
    | .ok invocation => OutlineNav.Main.run invocation
    | .error stop => pure stop.finish
  OutlineNav.Main.say finish.output
  return finish.code
