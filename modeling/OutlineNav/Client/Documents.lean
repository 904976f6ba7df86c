import OutlineNav.Language
import OutlineNav.Rpc.Message
import OutlineNav.Table
import OutlineNav.Text.Digest

/-!
# Open documents

A server is told when a document is opened, changed and closed. The client remembers the version and
the digest of the text that the server was told last, so that the same text is not sent twice. A
notification may fail to be written, and what is remembered then depends on what it was about:

* A document counts as open only if the server could be told.
* A change counts as told in any case.
* A closed document is forgotten in any case.
-/

namespace OutlineNav

structure OpenDocument where
  version : UInt32
  digest : UInt64
  deriving DecidableEq, Repr

abbrev OpenDocuments := Table String OpenDocument

/-! ## Notifications -/

inductive DocumentEvent where
  | opened (uri : String) (language : Language) (version : UInt32) (text : String)
  | changed (uri : String) (version : UInt32) (text : String)
  | closed (uri : String)
  deriving DecidableEq, Repr

namespace DocumentEvent

def notification : DocumentEvent → Rpc.Notification
  | .opened uri language version text =>
    .new "textDocument/didOpen" <| some <| .object [("textDocument", .object [
      ("uri", .str uri), ("languageId", .str language.id), ("version", .word version),
      ("text", .str text)])]
  | .changed uri version text =>
    .new "textDocument/didChange" <| some <| .object [
      ("textDocument", .object [("uri", .str uri), ("version", .word version)]),
      ("contentChanges", .arr [.object [("text", .str text)]])]
  | .closed uri =>
    .new "textDocument/didClose" <| some <| .object [
      ("textDocument", .object [("uri", .str uri)])]

end DocumentEvent

namespace OpenDocuments

/-! ## Telling the server a text -/

/-- What the server has to be told so that it has a text; nothing if it has the text already. -/
def event? (digest : String → UInt64) (language : Language) (docs : OpenDocuments)
    (uri text : String) : Option DocumentEvent :=
  match docs.get? uri with
  | none => some (.opened uri language 1 text)
  | some d => if d.digest = digest text then none else some (.changed uri (d.version + 1) text)

/-- What is remembered after the event was written or could not be written. -/
def afterEvent (digest : String → UInt64) (written : Bool) (docs : OpenDocuments) :
    DocumentEvent → OpenDocuments
  | .opened uri _ version text =>
    if written then docs.insert uri ⟨version, digest text⟩ else docs
  | .changed uri version text => docs.insert uri ⟨version, digest text⟩
  | .closed uri => docs.erase uri

/-! ## Closing -/

/-- What the server has to be told when a document is closed; nothing if it is not open. -/
def closing? (docs : OpenDocuments) (uri : String) : Option DocumentEvent :=
  if docs.contains uri then some (.closed uri) else none

end OpenDocuments

end OutlineNav
