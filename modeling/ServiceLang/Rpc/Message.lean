import ServiceLang.Json.Parse
import ServiceLang.Json.Render
import ServiceLang.Rpc.Error

namespace ServiceLang

/-!
# Messages

* `Message`: a request, a response or a notification, as received;
* `Message.parse`: the message of a body;
* `Outgoing`: what the server sends, and its text.
-/

/-- An error inside a response. -/
structure RpcError where
  code : Int32
  message : String
  deriving DecidableEq, Repr

/-- A message. A request has an identifier and a method, a response only an identifier, and a
    notification only a method. -/
inductive Message where
  | request (id : Json) (method : String) (params : Json)
  | response (id : Json) (result : Option Json) (error : Option RpcError)
  | notification (method : String) (params : Json)
  deriving Repr

/-- Why a body is no message. -/
inductive MessageFault where
  | notJson
  | notAnObject
  | badId
  | badMethod
  | neitherIdNorMethod
  deriving DecidableEq, Repr

/-- The fault as an error. -/
def MessageFault.toError : MessageFault → ServerError
  | .notJson => .serialization "invalid JSON"
  | .notAnObject => .invalidMessage "message must be an object"
  | .badId => .invalidMessage "id must be a number or a string"
  | .badMethod => .invalidMessage "method must be string"
  | .neitherIdNorMethod => .invalidMessage "message has neither id nor method"

namespace Message

/-- An identifier is a number or a string. -/
def readId : Json → Except MessageFault Json
  | .int n => .ok (.int n)
  | .float bits => .ok (.float bits)
  | .str s => .ok (.str s)
  | _ => .error .badId

/-- A method is a string. -/
def readMethod : Json → Except MessageFault String
  | .str s => .ok s
  | _ => .error .badMethod

/-- The error of a response: an object with a 32-bit code and a message. Anything else counts as
    no error. -/
def readError? (v : Json) : Option RpcError :=
  match v.get? "code", v.get? "message" with
  | some (.int code), some (.str message) =>
    if -2147483648 ≤ code ∧ code ≤ 2147483647 then some ⟨Int32.ofInt code, message⟩ else none
  | _, _ => none

/-- The identifier of an object; null counts as none. -/
def id? (v : Json) : Option Json :=
  match v.get? "id" with
  | some .null => none
  | other => other

/-- The message of an object. -/
def ofJson (v : Json) : Except MessageFault Message :=
  match v with
  | .obj _ =>
    let params := (v.get? "params").getD .null
    match id? v, v.get? "method" with
    | some id, some method => do return .request (← readId id) (← readMethod method) params
    | some id, none => do return .response (← readId id) (v.get? "result") ((v.get? "error").bind readError?)
    | none, some method => do return .notification (← readMethod method) params
    | none, none => .error .neitherIdNorMethod
  | _ => .error .notAnObject

/-- The message of a body. -/
def parse (body : String) : Except MessageFault Message :=
  match Json.parse body with
  | some v => ofJson v
  | none => .error .notJson

end Message

/-- What the server sends: the result of a request or the error it ends in, or a notification. -/
inductive Outgoing where
  | result (id : Json) (value : Json)
  | failure (id : Json) (code : Int32) (message : String)
  | notify (method : String) (params : Json)
  deriving Repr

namespace Outgoing

/-- The version of the protocol, which each message carries. -/
def version : String × Json := ("jsonrpc", .str "2.0")

/-- The message as JSON. -/
def toJson : Outgoing → Json
  | .result id value => .obj [("id", id), version, ("result", value)]
  | .failure id code message =>
    .obj [("error", .obj [("code", .int code.toInt), ("message", .str message)]), ("id", id), version]
  | .notify method params => .obj [version, ("method", .str method), ("params", params)]

/-- The body of the message. -/
def render (m : Outgoing) : String := m.toJson.render

end Outgoing

end ServiceLang
