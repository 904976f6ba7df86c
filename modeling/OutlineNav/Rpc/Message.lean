import OutlineNav.Json.Decode
import OutlineNav.Json.Parser

/-!
# Messages between client and server

Requests, responses and notifications of the remote procedure call protocol, with their JSON forms.
A message is told by its members: one with an identifier and a method is a request, with an
identifier alone a response, with a method alone a notification. Members that may be absent may also
be `null`.
-/

namespace OutlineNav.Rpc

open Json (Decoder DecodeError)
open Json.Decoder

/-! ## Parts -/

inductive RequestId where
  | number (n : UInt64)
  | text (s : String)
  deriving DecidableEq, Repr

namespace RequestId

def decode : Decoder RequestId
  | .int n =>
    if 0 ≤ n ∧ n < UInt64.size then .ok (.number n.toNat.toUInt64)
    else .error (.noAlternative "RequestId")
  | .str s => .ok (.text s)
  | _ => .error (.noAlternative "RequestId")

def toJson : RequestId → Json
  | .number n => .nat n.toNat
  | .text s => .str s

end RequestId

structure Failure where
  code : Int
  message : String
  data : Option Json
  deriving DecidableEq, Repr

namespace Failure

def text (f : Failure) : String := s!"[{f.code}] {f.message}"

def decode : Decoder Failure :=
  record "ResponseError"
    (fun ms => do
      let code ← member? i32 "code" ms
      let data ← optional any "data" ms
      let message ← member? string "message" ms
      return ⟨← required "code" code, ← required "message" message, data⟩)
    (fun vs => do
      let code ← item i32 "ResponseError" 3 0 vs
      let message ← item string "ResponseError" 3 1 vs
      let data ← item (nullable any) "ResponseError" 3 2 vs
      noMore 3 vs
      return ⟨code, message, data⟩)

def toJson (f : Failure) : Json :=
  .obj (Json.present [("code", some (.int f.code)), ("message", some (.str f.message)),
    ("data", f.data)])

end Failure

/-- The version of the protocol that this program speaks. -/
def version : String := "2.0"

/-! ## Requests -/

structure Request where
  version : String
  id : RequestId
  method : String
  params : Option Json
  deriving DecidableEq, Repr

namespace Request

def new (id : UInt64) (method : String) (params : Option Json) : Request :=
  ⟨Rpc.version, .number id, method, params⟩

def decode : Decoder Request :=
  record "Request"
    (fun ms => do
      let id ← member? RequestId.decode "id" ms
      let version ← member? string "jsonrpc" ms
      let method ← member? string "method" ms
      let params ← optional any "params" ms
      return ⟨← required "jsonrpc" version, ← required "id" id, ← required "method" method, params⟩)
    (fun vs => do
      let version ← item string "Request" 4 0 vs
      let id ← item RequestId.decode "Request" 4 1 vs
      let method ← item string "Request" 4 2 vs
      let params ← item (nullable any) "Request" 4 3 vs
      noMore 4 vs
      return ⟨version, id, method, params⟩)

def toJson (r : Request) : Json :=
  .obj (Json.present [("jsonrpc", some (.str r.version)), ("id", some r.id.toJson),
    ("method", some (.str r.method)), ("params", r.params)])

end Request

/-! ## Responses -/

structure Response where
  version : String
  id : Option RequestId
  result : Option Json
  failure : Option Failure
  deriving DecidableEq, Repr

namespace Response

def success (id : RequestId) (result : Json) : Response := ⟨Rpc.version, some id, some result, none⟩

def failed (id : RequestId) (code : Int) (message : String) : Response :=
  ⟨Rpc.version, some id, none, some ⟨code, message, none⟩⟩

def isSuccess (r : Response) : Bool := r.failure.isNone

/-- The failure if there is one, and otherwise the result; an absent result is `null`. -/
def outcome (r : Response) : Except Failure Json :=
  match r.failure with
  | some f => .error f
  | none => .ok (r.result.getD .null)

def decode : Decoder Response :=
  record "Response"
    (fun ms => do
      let failure ← optional Failure.decode "error" ms
      let id ← optional RequestId.decode "id" ms
      let version ← member? string "jsonrpc" ms
      let result ← optional any "result" ms
      return ⟨← required "jsonrpc" version, id, result, failure⟩)
    (fun vs => do
      let version ← item string "Response" 4 0 vs
      let id ← item (nullable RequestId.decode) "Response" 4 1 vs
      let result ← item (nullable any) "Response" 4 2 vs
      let failure ← item (nullable Failure.decode) "Response" 4 3 vs
      noMore 4 vs
      return ⟨version, id, result, failure⟩)

def toJson (r : Response) : Json :=
  .obj (Json.present [("jsonrpc", some (.str r.version)),
    ("id", some (Json.ofOption RequestId.toJson r.id)), ("result", r.result),
    ("error", r.failure.map Failure.toJson)])

end Response

/-! ## Notifications -/

structure Notification where
  version : String
  method : String
  params : Option Json
  deriving DecidableEq, Repr

namespace Notification

def new (method : String) (params : Option Json) : Notification := ⟨Rpc.version, method, params⟩

def decode : Decoder Notification :=
  record "Notification"
    (fun ms => do
      let version ← member? string "jsonrpc" ms
      let method ← member? string "method" ms
      let params ← optional any "params" ms
      return ⟨← required "jsonrpc" version, ← required "method" method, params⟩)
    (fun vs => do
      let version ← item string "Notification" 3 0 vs
      let method ← item string "Notification" 3 1 vs
      let params ← item (nullable any) "Notification" 3 2 vs
      noMore 3 vs
      return ⟨version, method, params⟩)

def toJson (n : Notification) : Json :=
  .obj (Json.present [("jsonrpc", some (.str n.version)), ("method", some (.str n.method)),
    ("params", n.params)])

end Notification

/-! ## Messages -/

inductive Message where
  | request (r : Request)
  | response (r : Response)
  | notification (n : Notification)
  deriving DecidableEq, Repr

inductive MessageError where
  /-- The text is not JSON. -/
  | grammar (text : List Char) (error : Json.SyntaxError)
  | form (error : DecodeError)
  /-- Neither an identifier nor a method. -/
  | unclassified
  deriving DecidableEq, Repr

def MessageError.message : MessageError → String
  | .grammar text e => e.message text
  | .form e => e.message
  | .unclassified => "Invalid LSP message"

namespace Message

def toJson : Message → Json
  | .request r => r.toJson
  | .response r => r.toJson
  | .notification n => n.toJson

def ofJson (v : Json) : Except MessageError Message :=
  match (v.get? "id").isSome, (v.get? "method").isSome with
  | true, true => ((Request.decode v).map .request).mapError .form
  | true, false => ((Response.decode v).map .response).mapError .form
  | false, true => ((Notification.decode v).map .notification).mapError .form
  | false, false => .error .unclassified

def parse (text : List Char) : Except MessageError Message := do
  let v ← (Json.parse text).mapError (.grammar text)
  ofJson v

end Message

end OutlineNav.Rpc
