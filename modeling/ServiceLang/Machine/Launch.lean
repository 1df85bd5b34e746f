import ServiceLang.Machine.Environment
import ServiceLang.Machine.Shell.Run
import ServiceLang.Rpc.Frame
import ServiceLang.Server.Outbox

namespace ServiceLang

/-!
# Starting a server program

* `Host`: the machine that programs run on;
* `Host.spawn`: the program of a command, ready to run in a workspace;
* `Running.relay`: its output for an input, and its exit code;
* `launchFailure`: what the client is told when a program does not start.
-/

/-- The machine: its environment, its disk, and the programs that it finds by name. -/
structure Host where
  environment : Environment
  disk : Disk
  programs : String → Option Program

/-- The programs of a plain machine with some variables. -/
def plainPrograms (bindings : List (String × String)) (name : String) : Option Program :=
  if name = "sh" then some (Shell.program bindings) else Shell.program? name

/-- Why a program does not start. -/
inductive SpawnFault where
  | system (e : OsError)
  | nulByte
  deriving DecidableEq, Repr

/-- The fault in words. -/
def SpawnFault.message : SpawnFault → String
  | .system e => e.message
  | .nulByte => "nul byte found in provided data"

/-- A program that has been started. -/
structure Running where
  command : String
  args : List String
  disk : Disk
  program : Program

namespace Host

/-- The directories that hold the programs. -/
def programDirs : List (List String) := [["bin"], ["usr", "bin"]]

/-- Why there is no program of a name: the directories that hold programs are themselves no
    programs, and other names are not found. -/
def unknownProgram (name : String) : OsError :=
  if FileTree.maxNameSize < name.utf8ByteSize then .nameTooLong
  else if name = "." ∨ name = ".." then .permissionDenied
  else .notFound

/-- The program of a command, seen from a directory. A bare name is looked up; a path names a
    program in one of the directories for programs, and other files are not for running. -/
def programOf (h : Host) (disk : Disk) (command : String) : Except SpawnFault Program :=
  let names := Path.place disk.directory command
  if !command.toList.contains '/' then
    match h.programs command with
    | some program => .ok program
    | none => .error (.system (unknownProgram command))
  else
    let found := if programDirs.contains names.dropLast then names.getLast?.bind h.programs else none
    match found, disk.find command with
    | some program, _ => .ok program
    | none, .ok _ => .error (.system .permissionDenied)
    | none, .error e => .error (.system e)

/-- Starts a command in a workspace; a workspace that is no directory does not count. -/
def spawn (h : Host) (command : String) (args : List String) (root : String) :
    Except ServerError Running :=
  let disk := (h.disk.enter? root).getD h.disk
  let program := if (command :: args).any (·.toList.contains '\x00') then .error .nulByte
    else h.programOf disk command
  match program with
  | .ok program => .ok ⟨command, args, disk, program⟩
  | .error fault => .error (.spawnFailed s!"{command}: {fault.message}")

end Host

/-- What a started program leaves for an input. -/
def Running.relay (r : Running) (input : List UInt8) : Finished := r.program r.args r.disk input

/-- The exit code of a program; one that was stopped from outside counts as failed. -/
def Finished.code (done : Finished) : Nat := done.status.getD 1

/-- What the client is told when the server program does not start. -/
def launchFailure (e : ServerError) : List Outgoing :=
  noticeMessages ⟨.error, s!"webdsl: could not start language server ({e.message})"⟩

/-- The bytes of messages, each in its frame. -/
def frames (messages : List Outgoing) : List UInt8 := messages.flatMap fun m => frame m.render

end ServiceLang
