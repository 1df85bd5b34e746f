import ServiceLang.Protocol.Record

namespace ServiceLang

/-!
# Notices to the user

A notice is a message that the client shows or logs.
-/

/-- How important a notice is. -/
inductive NoticeKind where
  | error
  | warning
  | info
  | log
  deriving DecidableEq, Repr

namespace NoticeKind

/-- The code of a kind. -/
def code : NoticeKind → UInt8
  | .error => 1
  | .warning => 2
  | .info => 3
  | .log => 4

/-- The kind of a code. -/
def ofCode? : UInt8 → Option NoticeKind
  | 1 => some .error
  | 2 => some .warning
  | 3 => some .info
  | 4 => some .log
  | _ => none

/-- The kind as JSON. -/
def toJson (k : NoticeKind) : Json := .ofNat k.code.toNat

/-- The decoder of kinds. -/
def decode : Decode NoticeKind := .code "invalid message type" ofCode?

end NoticeKind

/-- A message to the user. -/
structure Notice where
  kind : NoticeKind
  message : String
  deriving DecidableEq, Repr

namespace Notice

/-- The notice as JSON. -/
def toJson (n : Notice) : Json := .obj [("message", .str n.message), ("type", n.kind.toJson)]

/-- The decoder of notices. -/
def decode : Decode Notice :=
  (Record.start mk)
    |>.required "type" NoticeKind.decode
    |>.required "message" .string
    |>.decode "MessageParams"

end Notice

end ServiceLang
