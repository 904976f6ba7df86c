import OutlineNav.Document.FilePath
import OutlineNav.Error
import OutlineNav.Location
import OutlineNav.Text.Utf8

/-!
# Files

What the program asks of the files around it, as operations of some monad. The program is written
over these operations and runs with any files that provide them.
-/

namespace OutlineNav

structure Files (m : Type → Type) where
  /-- The path without detours of what a path leads to. -/
  canonical : String → m (Except FileError String)
  read : String → m (Except FileError (List UInt8))
  write : String → List UInt8 → m (Except FileError Unit)
  /-- Makes a folder and the folders that its path leads through, where they are missing. -/
  createFolders : String → m (Except FileError Unit)
  /-- The path leads to something. -/
  present : String → m Bool

namespace Files

variable {m n : Type → Type}

/-- The same files, for a larger monad. -/
def lift [MonadLiftT m n] (files : Files m) : Files n where
  canonical path := liftM (files.canonical path)
  read path := liftM (files.read path)
  write path bytes := liftM (files.write path bytes)
  createFolders path := liftM (files.createFolders path)
  present path := liftM (files.present path)

variable [Monad m]

def readText (files : Files m) (path : String) : m (Except FileError String) := do
  match ← files.read path with
  | .error e => return .error e
  | .ok bytes =>
    match Text.decodeUtf8 bytes with
    | .ok cs => return .ok (String.ofList cs)
    | .error _ => return .error .invalidText

def writeText (files : Files m) (path text : String) : m (Except FileError Unit) :=
  files.write path (Text.encodeUtf8 text.toList)

/-- The canonical path of what a path leads to from the folder `base`. -/
def locate (files : Files m) (base path : String) : m (Except LocationError String) := do
  let joined := FilePath.joinText base path
  match ← files.canonical joined with
  | .ok canonical => return .ok canonical
  | .error _ => return .error (.fileNotFound joined)

end Files

end OutlineNav
