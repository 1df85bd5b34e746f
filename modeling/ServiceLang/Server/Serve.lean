import ServiceLang.Rpc.Frame
import ServiceLang.Server.Basic

namespace ServiceLang

/-!
# Serving a client

The server reads frames until the client says to exit, the stream ends, or it cannot be read on. The
tasks that a frame defers may be done at any time before the server stops for good; here they are
done before the next frame is read.

* `Server.hear`: takes what was read of one frame, and leaves the tasks;
* `Server.receive`: the same, with the tasks;
* `Server.run`: takes a whole stream;
* `serve`: what a stream leads to and what is written.
-/

namespace Server

/-- Takes what was read of one frame, and gives the outcome if the server stops there. A frame or
    a body that breaks the rules is answered with an error that names no request. -/
def hear (s : Server) : FrameRead → Server × Option (Except ServerError Nat)
  | .body text =>
    match Message.parse text with
    | .ok m =>
      match s.handle m with
      | (s, .proceed) => (s, none)
      | (s, .exit code) => (s, some (.ok code))
    | .error fault =>
      (s.post [.failure .null fault.toError.code fault.toError.message], none)
  | .ended => ({ s with session := .terminated }, some (.ok s.session.exitCode))
  | .refused fault => (s.post [.failure .null ErrorCode.parseError fault.text], none)
  | .broken fault => (s, some (.error (.io fault.text)))

/-- Takes what was read of one frame, and does all tasks. -/
def receive (s : Server) (read : FrameRead) : Server × Option (Except ServerError Nat) :=
  let heard := s.hear read
  (heard.1.settle, heard.2)

/-- The server stops at every read behind which reading cannot go on. -/
theorem goesOn_of_receive_eq_none {s : Server} {read : FrameRead}
    (h : (s.receive read).2 = none) : read.goesOn = true := by
  cases read <;> simp_all [receive, hear, FrameRead.goesOn]

/-- Takes a stream, frame after frame, and gives the outcome. -/
def run (s : Server) (input : List UInt8) : Server × Except ServerError Nat :=
  match _h : s.receive (readFrame maxFrameLength input).1 with
  | (s, some outcome) => (s, outcome)
  | (s, none) => run s (readFrame maxFrameLength input).2
termination_by input.length
decreasing_by
  exact length_readFrame_lt _ _ (goesOn_of_receive_eq_none (by rw [_h]))

end Server

/-- What serving a stream leads to: an exit code or an error, and the messages written. -/
def serve (analyzer : Analyzer) (writer : Writer) (input : List UInt8) :
    Except ServerError Nat × List Outgoing :=
  let (server, outcome) := (Server.fresh analyzer).run input
  (outcome, writer.delivered server.outbox.queue)

end ServiceLang
