import ServiceLang.Files.LogFile
import ServiceLang.Machine.Launch
import ServiceLang.Protocol.Capabilities
import ServiceLang.Server.Serve
import ServiceLang.Settings.Command
import ServiceLang.Settings.Load

namespace ServiceLang

/-!
# The command line

* `Mode`: what the arguments ask for;
* `Host.run`: a whole run, from the arguments and the input to the exit code, the output and the
  disk.

The server speaks on its input and output. The launcher starts the configured server program and
relays to it; when it does not start, the client is told and served all the same.
-/

/-- What the arguments ask for. -/
inductive Mode where
  | serve
  | launch (directory : Option String)
  | version
  deriving DecidableEq, Repr

/-- What the first argument asks for, or the argument that is not known. -/
def Mode.ofArgs : List String → Except String Mode
  | [] => .ok .serve
  | "serve" :: _ => .ok .serve
  | "--stdio" :: _ => .ok .serve
  | "launch" :: rest => .ok (.launch rest.head?)
  | "--version" :: _ => .ok .version
  | "-V" :: _ => .ok .version
  | other :: _ => .error other

/-- What a run leaves. -/
structure RunResult where
  code : Nat
  output : List UInt8 := []
  errors : List UInt8 := []
  disk : Disk

/-- A line of error output. -/
def errorLine (text : String) : List UInt8 := textBytes s!"{serverName}: {text}\n"

/-- The line for an argument that is not known. -/
def unknownArgument (argument : String) : String :=
  s!"unknown argument '{argument}' (expected serve or launch [DIR])"

/-- The line for a server that cannot go on. The cause follows the error that it lies in. -/
def serverFailed (e : ServerError) : String :=
  match e with
  | .io reason => s!"language server failed: {e.message}: {reason}"
  | _ => s!"language server failed: {e.message}"

/-- The analyzer that settings describe. -/
def Settings.analyzer (s : Settings) : Analyzer :=
  .standard s.diagnostics.source s.diagnostics.width

namespace Host

/-- The working directory as a path. -/
def directory (h : Host) : String := Path.ofNames h.disk.directory

/-- The settings of a run. Where they cannot be loaded the defaults hold. -/
def loadSettings (h : Host) : Settings × Host :=
  match h.environment.settingsDir? with
  | none => ({}, h)
  | some directory =>
    let (result, disk) := Settings.load h.disk directory (some h.directory)
    (result.toOption.getD {}, { h with disk })

/-- The machine with the log file opened, where that is possible. -/
def openLog (h : Host) (s : Settings) : Host :=
  let path := h.environment.logFile s.log.file
  { h with disk := (h.disk.appendLog path maxLogSize maxLogFiles []).disk }

/-- Serves the client on the input. -/
def runServer (h : Host) (s : Settings) (input : List UInt8) : RunResult :=
  match serve s.analyzer {} input with
  | (.ok code, sent) => { code, output := frames sent, disk := h.disk }
  | (.error e, sent) =>
    { code := 1, output := frames sent, errors := errorLine (serverFailed e), disk := h.disk }

/-- The server program of the settings, started for a workspace. -/
def start (h : Host) (s : Settings) (root : String) : Except ServerError Running :=
  match resolveCommand s.server.command root with
  | .ok command => h.spawn command s.server.args root
  | .error e => .error (.spawnFailed e.message)

/-- Relays to the server program, or serves the client if it does not start. -/
def runLauncher (h : Host) (s : Settings) (root : String) (input : List UInt8) : RunResult :=
  match h.start s root with
  | .ok running =>
    let done := running.relay input
    { code := done.code, output := done.output, errors := done.errors, disk := done.disk }
  | .error e =>
    let served := h.runServer s input
    { served with
      output := frames (launchFailure e) ++ served.output
      errors := errorLine e.message ++ served.errors }

/-- A whole run. -/
def run (h : Host) (args : List String) (input : List UInt8) : RunResult :=
  match Mode.ofArgs args with
  | .error argument =>
    { code := 1, errors := errorLine (unknownArgument argument), disk := h.disk }
  | .ok .version =>
    { code := 0, output := textBytes s!"{serverName} {serverVersion}\n", disk := h.disk }
  | .ok mode =>
    let (settings, h) := h.loadSettings
    let h := h.openLog settings
    match mode with
    | .launch directory => h.runLauncher settings (directory.getD h.directory) input
    | _ => h.runServer settings input

end Host

end ServiceLang
