import OutlineNav.Document.Uri
import OutlineNav.Rpc.Message
import OutlineNav.Symbol.Kind

/-!
# Opening a connection

What a client tells a server about itself in the first request: its process, the folder of the
project, and what it can do with symbols and folding ranges.
-/

namespace OutlineNav.Client

def name : String := "symnav"

def version : String := "0.1.0"

def documentAbilities : Json :=
  .object [
    ("synchronization", .object [("dynamicRegistration", .bool false), ("didSave", .bool false)]),
    ("documentSymbol", .object [
      ("symbolKind", .object [("valueSet", .arr (SymbolKind.all.map fun kind => .nat kind.code))]),
      ("hierarchicalDocumentSymbolSupport", .bool true)]),
    ("foldingRange", .object [
      ("lineFoldingOnly", .bool true),
      ("foldingRangeKind", .object [
        ("valueSet", .arr [.str "comment", .str "imports", .str "region"])])])]

/-- The parameters of the first request. -/
def openingParams (ownNumber : UInt32) (root : String) : Json :=
  .object [
    ("processId", .word ownNumber),
    ("rootUri", .str (Uri.ofPath root)),
    ("capabilities", .object [
      ("textDocument", documentAbilities),
      ("window", .object [("workDoneProgress", .bool false)]),
      ("workspace", .object [("configuration", .bool true)])]),
    ("clientInfo", .object [("name", .str name), ("version", .str version)])]

def documentParams (uri : String) : Json :=
  .object [("textDocument", .object [("uri", .str uri)])]

end OutlineNav.Client
