import OutlineNav.Json.Decode

/-!
# What a server can do

The answer to the request that opens a connection. A server announces that it provides symbols or
folding ranges by `true` or an object of options.
-/

namespace OutlineNav.Rpc

open Json (Decoder DecodeError)
open Json.Decoder

structure Capabilities where
  textDocumentSync : Option Json
  documentSymbolProvider : Option Json
  foldingRangeProvider : Option Json
  deriving DecidableEq, Repr

namespace Capabilities

/-- A provider is announced by anything but its absence, `null` and `false`. -/
def announces : Option Json → Bool
  | none | some .null => false
  | some (.bool enabled) => enabled
  | some _ => true

def providesSymbols (c : Capabilities) : Bool := announces c.documentSymbolProvider

def providesFolding (c : Capabilities) : Bool := announces c.foldingRangeProvider

def decode : Decoder Capabilities :=
  record "ServerCapabilities"
    (fun ms => do
      let symbols ← optional any "documentSymbolProvider" ms
      let folding ← optional any "foldingRangeProvider" ms
      let sync ← optional any "textDocumentSync" ms
      return ⟨sync, symbols, folding⟩)
    (fun vs => do
      let sync ← item (nullable any) "ServerCapabilities" 3 0 vs
      let symbols ← item (nullable any) "ServerCapabilities" 3 1 vs
      let folding ← item (nullable any) "ServerCapabilities" 3 2 vs
      noMore 3 vs
      return ⟨sync, symbols, folding⟩)

def toJson (c : Capabilities) : Json :=
  .obj (Json.present [("documentSymbolProvider", c.documentSymbolProvider),
    ("foldingRangeProvider", c.foldingRangeProvider), ("textDocumentSync", c.textDocumentSync)])

end Capabilities

structure ServerInfo where
  name : String
  version : Option String
  deriving DecidableEq, Repr

namespace ServerInfo

def decode : Decoder ServerInfo :=
  record "ServerInfo"
    (fun ms => do
      let name ← member? string "name" ms
      let version ← optional string "version" ms
      return ⟨← required "name" name, version⟩)
    (fun vs => do
      let name ← item string "ServerInfo" 2 0 vs
      let version ← item (nullable string) "ServerInfo" 2 1 vs
      noMore 2 vs
      return ⟨name, version⟩)

def toJson (i : ServerInfo) : Json :=
  .obj (Json.present [("name", some (.str i.name)), ("version", i.version.map .str)])

end ServerInfo

/-- The answer of a server to the opening request. -/
structure Greeting where
  capabilities : Capabilities
  serverInfo : Option ServerInfo
  deriving DecidableEq, Repr

namespace Greeting

def decode : Decoder Greeting :=
  record "InitializeResult"
    (fun ms => do
      let capabilities ← member? Capabilities.decode "capabilities" ms
      let serverInfo ← optional ServerInfo.decode "serverInfo" ms
      return ⟨← required "capabilities" capabilities, serverInfo⟩)
    (fun vs => do
      let capabilities ← item Capabilities.decode "InitializeResult" 2 0 vs
      let serverInfo ← item (nullable ServerInfo.decode) "InitializeResult" 2 1 vs
      noMore 2 vs
      return ⟨capabilities, serverInfo⟩)

def toJson (g : Greeting) : Json :=
  .obj (Json.present [("capabilities", some g.capabilities.toJson),
    ("serverInfo", g.serverInfo.map ServerInfo.toJson)])

end Greeting

end OutlineNav.Rpc
