import OutlineNav.Document.Files
import OutlineNav.Named

/-!
# Trees of files

Files and folders in memory, addressed from the root of the tree by lists of names. A path is walked
segment by segment, and every segment, also one without meaning, has to start in a folder.
-/

namespace OutlineNav

inductive FileTree where
  | file (bytes : List UInt8)
  | folder (entries : List (String × FileTree))
  deriving Inhabited, Repr

namespace FileTree

def empty : FileTree := .folder []

/-! ## Names -/

def entries : FileTree → List (String × FileTree)
  | .file _ => []
  | .folder entries => entries

/-- What lies at the end of a list of names. -/
def find? : List String → FileTree → Option FileTree
  | [], t => some t
  | name :: names, t => (Named.lookup? name t.entries).bind (find? names)

/-- Puts something at the end of a list of names; folders on the way are made. -/
def put : (names : List String) → (t node : FileTree) → FileTree
  | [], _, node => node
  | name :: names, t, node =>
    let inner := (Named.lookup? name t.entries).getD empty
    .folder (Named.insert name (put names inner node) t.entries)

/-! ## Paths -/

/-- The length in bytes that no name exceeds. -/
def maxNameLength : Nat := 255

/-- The names of the place that a segment leads to from the place `here`. -/
def enter (t : FileTree) (here : List String) (segment : List Char) :
    Except FileError (List String) :=
  match t.find? here with
  | some (.folder entries) =>
    match FilePath.segmentPart? segment with
    | some (.name name) =>
      if maxNameLength < Text.utf8Length name then .error .nameTooLong
      else if (Named.lookup? (String.ofList name) entries).isSome then
        .ok (here ++ [String.ofList name])
      else .error .notFound
    | some .up => .ok here.dropLast
    | _ => .ok here
  | some (.file _) => .error .notDirectory
  | none => .error .notFound

def walk (t : FileTree) (here : List String) (segments : List (List Char)) :
    Except FileError (List String) :=
  segments.foldlM t.enter here

/-- The segments of a path as seen from the folder `base`. -/
def segmentsFrom (base path : String) : List (List Char) :=
  FilePath.segments (FilePath.join base.toList path.toList)

/-- The names of the place that a path leads to from the folder `base`. -/
def resolve (t : FileTree) (base path : String) : Except FileError (List String) :=
  if path.isEmpty then .error .notFound else t.walk [] (segmentsFrom base path)

def pathText (names : List String) : String := "/" ++ "/".intercalate names

def read (t : FileTree) (base path : String) : Except FileError (List UInt8) := do
  match t.find? (← t.resolve base path) with
  | some (.file bytes) => .ok bytes
  | some (.folder _) => .error .isDirectory
  | none => .error .notFound

/-! ## Changes -/

/-- Writes a file, whose folder has to be there. -/
def write (t : FileTree) (base path : String) (bytes : List UInt8) : Except FileError FileTree := do
  if path.isEmpty then .error .notFound
  let segments := segmentsFrom base path
  let here ← t.walk [] segments.dropLast
  let name := segments.getLast?.getD []
  match FilePath.segmentPart? name, t.find? here with
  | _, some (.file _) => .error .notDirectory
  | some (.name name), some (.folder entries) =>
    match Named.lookup? (String.ofList name) entries with
    | some (.folder _) => .error .isDirectory
    | _ =>
      if maxNameLength < Text.utf8Length name then .error .nameTooLong
      else .ok (t.put (here ++ [String.ofList name]) (.file bytes))
  | _, some (.folder _) => .error .isDirectory
  | _, none => .error .notFound

/-- Walks through segments and makes the folders that are missing. -/
def createFrom (t : FileTree) (here : List String) :
    (segments : List (List Char)) → Except FileError FileTree
  | [] =>
    match t.find? here with
    | some (.file _) => .error .alreadyExists
    | _ => .ok t
  | segment :: rest =>
    match t.enter here segment with
    | .ok there => createFrom t there rest
    | .error .notFound =>
      let there := here ++ [String.ofList segment]
      createFrom (t.put there empty) there rest
    | .error e => .error e

def createFolders (t : FileTree) (base path : String) : Except FileError FileTree :=
  if path.isEmpty then .ok t else t.createFrom [] (segmentsFrom base path)

/-! ## As files of a program -/

/-- The files of a program that runs in the folder `base` of a tree. -/
def files (base : String) : Files (StateM FileTree) where
  canonical path := do return ((← get).resolve base path).map pathText
  read path := do return (← get).read base path
  write path bytes := do change ((← get).write base path bytes)
  createFolders path := do change ((← get).createFolders base path)
  present path := do return ((← get).resolve base path).toOption.isSome
where
  change : Except FileError FileTree → StateM FileTree (Except FileError Unit)
    | .ok t => do
      set t
      return .ok ()
    | .error e => return .error e

end FileTree

end OutlineNav
