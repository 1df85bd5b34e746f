namespace ServiceLang

/-!
# Errors of the server and its launcher

* `ErrorCode`: the codes that error replies carry;
* `ServerError`: what went wrong, in words and as the code that it is reported with.
-/

namespace ErrorCode

/-- A body that is not JSON. -/
def parseError : Int32 := -32700

/-- A message that is no valid request, or not one for this state of the session. -/
def invalidRequest : Int32 := -32600

/-- A method that does not exist. -/
def methodNotFound : Int32 := -32601

/-- Parameters that the method does not take. -/
def invalidParams : Int32 := -32602

/-- A request before the session has been set up. -/
def notInitialized : Int32 := -32002

end ErrorCode

/-- What can go wrong. -/
inductive ServerError where
  /-- The server program did not start. -/
  | spawnFailed (reason : String)
  /-- A request is answered with an error. -/
  | rpc (code : Int32) (message : String)
  /-- A value is not what it should be. -/
  | serialization (reason : String)
  /-- A stream failed. -/
  | io (reason : String)
  /-- A frame or a message breaks the rules of the protocol. -/
  | invalidMessage (reason : String)
  /-- Nothing can be sent any more. -/
  | channelClosed
  deriving DecidableEq, Repr

namespace ServerError

/-- The error in words. -/
def message : ServerError → String
  | .spawnFailed reason => s!"server failed to start: {reason}"
  | .rpc code text => s!"JSON-RPC error {code.toInt}: {text}"
  | .serialization reason => s!"serialization error: {reason}"
  | .io reason => s!"I/O error: {reason}"
  | .invalidMessage reason => s!"invalid message: {reason}"
  | .channelClosed => "outgoing channel closed"

/-- The code that the error is reported with. -/
def code : ServerError → Int32
  | .rpc code _ => code
  | .serialization _ => ErrorCode.parseError
  | _ => ErrorCode.invalidRequest

end ServerError

end ServiceLang
