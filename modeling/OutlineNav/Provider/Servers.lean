import OutlineNav.Client.Crew
import OutlineNav.Document.Files
import OutlineNav.Provider.Basic
import OutlineNav.Provider.Results

/-!
# Language servers as providers

The server of a document's language is asked for symbols and folding ranges, after it was told the
text that the document has now. Several documents may be asked about at the same time. Files that
are too large or no text are not sent to servers.
-/

namespace OutlineNav.Provider

open Json (Decoder)
open Server (Processes)

variable {κ : Type} {m : Type → Type} [Monad m]

/-! ## Documents for servers -/

/-- The language of a document, which has to be a known one. -/
def documentLanguage (d : Document) : Except ServiceError Language :=
  match Language.ofPath d with
  | .unknown =>
    let extension := (FilePath.extension? d.toList).map String.ofList
    .error (.unsupportedLanguage (extension.getD "unknown"))
  | language => .ok language

/-- The number of bytes at the beginning of a file among which none is zero if the file is a
text. -/
def probeLength : Nat := 8192

/-- The text of a file with the given bytes, if a server may have it. -/
def documentText (w : Workspace) (d : Document) (bytes : List UInt8) : Except ServiceError String :=
  let limit := w.settings.maxFileSize
  if limit ≠ UInt64.size - 1 ∧ limit < bytes.length then
    .error (.fileTooLarge d (bytes.length / bytesPerMegabyte) (limit / bytesPerMegabyte))
  else if (bytes.take probeLength).contains 0 then .error binary
  else
    match Text.decodeUtf8 bytes with
    | .ok text => .ok (String.ofList text)
    | .error _ => .error binary
where
  /-- The failure to take the document for a text. -/
  binary : ServiceError := .protocol s!"Cannot process binary file: {d}"

/-! ## Questions to servers -/

def settled {α : Type} : Except ServiceError α → Pooled κ m α
  | .ok a => return a
  | .error e => throw e

/-- The question to a server about a document, with the text that the document has now. -/
def questionAbout (files : Files m) (w : Workspace) (method : String) (d : Document) :
    ExceptT ServiceError m Question := do
  let language ← ExceptT.mk (pure (documentLanguage d))
  let bytes ← ExceptT.mk do return (← files.read d).mapError .file
  let text ← ExceptT.mk (pure (documentText w d bytes))
  return ⟨language, Uri.ofPath d, text, method⟩

/-- The answer of the server to a request about a document. -/
def ask (files : Files m) (p : Processes m κ) (w : Workspace) (method : String) (d : Document) :
    Pooled κ m Json := do
  let q ← settled (← ((questionAbout files w method d).run : m _))
  Pool.withClient p w q.language do
    Connection.answer p w q.method (← q.ask p)

def symbolsMethod : String := "textDocument/documentSymbol"

def serverSymbols (files : Files m) (p : Processes m κ) (w : Workspace) (d : Document) :
    Pooled κ m (Option (List Symbol)) := do
  settled (decodeSymbols (← ask files p w symbolsMethod d))

/-- Gives the results of questions to those who have asked one. -/
def handBack : List (Except ServiceError Question) → List (Except ServiceError Json) → List Answer
  | .error e :: questions, results => .error e :: handBack questions results
  | .ok _ :: questions, result :: results =>
    result.bind decodeSymbols :: handBack questions results
  | _, _ => []

/-- The symbols of several documents, for which servers are asked at the same time. -/
def serverSymbolsTogether (files : Files m) (p : Processes m κ) (w : Workspace)
    (ds : List Document) : StateT (Pool κ) m (List Answer) := do
  let questions ← ds.mapM fun d => ((questionAbout files w symbolsMethod d).run : m _)
  return handBack questions (← Crew.askAll p w (questions.filterMap (·.toOption)))

/-- The folding ranges in a result; `null` means that there are none. -/
def decodeFolds (result : Json) : Except ServiceError (List FoldRange) :=
  match Decoder.nullable (Decoder.list WireFold.decode) result with
  | .ok wires => .ok ((wires.getD []).map WireFold.foldRange)
  | .error e => .error (.protocol s!"Invalid FoldingRange: {e.message}")

/-- The folding ranges of a document; there are none if the server does not provide any. -/
def serverFolds (files : Files m) (p : Processes m κ) (w : Workspace) (d : Document) :
    Pooled κ m (List FoldRange) := do
  let language ← settled (documentLanguage d)
  Pool.acquire p w language
  if ((← get).client? language).any (·.client.providesFolding) then
    settled (decodeFolds (← ask files p w "textDocument/foldingRange" d))
  else return []

def closeDocument (p : Processes m κ) (d : Document) : StateT (Pool κ) m Unit :=
  match documentLanguage d with
  | .ok language => discard (Pool.onClient language (Connection.close p (Uri.ofPath d))).run
  | .error _ => pure ()

/-- Language servers as a provider. -/
def ofServers (files : Files m) (p : Processes m κ) (w : Workspace) :
    Provider (StateT (Pool κ) m) where
  symbols d := (serverSymbols files p w d).run
  folds d := (serverFolds files p w d).run
  close d := closeDocument p d
  shutdown := Pool.stopAll p w

end OutlineNav.Provider
