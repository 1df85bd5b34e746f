import ServiceLang.CommandLine

/-!
# The program

The command line on a real machine: it reads the input frame by frame, hands each to the server,
and writes what the server sends. It starts no programs, so a launcher serves the client itself.
-/

namespace ServiceLang.CommandLine

/-! ### Files -/

/-- The bytes of a file, where there is one. -/
def bytesOf? (path : String) : IO (Option (List UInt8)) := do
  try
    let bytes ← IO.FS.readBinFile path
    return some bytes.toList
  catch _ => return none

/-- A disk with one more file. -/
def withFile (d : Disk) (path : String) (content : List UInt8) : Disk :=
  ((d.makeParent path).andThen fun d => .ofResult d (d.setContent path content)).disk

/-- The disk with those among the given files that exist, seen from a directory. -/
def diskOf (directory : String) (paths : List String) : IO Disk := do
  let root : Disk := ⟨.empty, []⟩
  let start := (root.makeDirs directory).disk
  paths.foldlM
    (fun d path => do
      match ← bytesOf? path with
      | some content => return withFile d path content
      | none => return d)
    { start with directory := Path.names directory }

/-- Makes the user's file of settings if it does not exist, and says whether it is there. -/
def ensureUserSettings (directory : String) : IO Bool := do
  let path := Path.join directory settingsFileName
  if (← bytesOf? path).isSome then return true
  try
    IO.FS.createDirAll directory
    IO.FS.writeFile path defaultSettingsText
    return true
  catch _ => return false

/-- The paths of the files that may hold settings. -/
def settingsPaths (environment : Environment) (directory : String) : List String :=
  environment.settingsDir?.toList.map (Path.join · settingsFileName) ++
    (Path.upward directory).map fun names =>
      Path.ofNames (names ++ [projectSettingsDir, settingsFileName])

/-- A variable of the environment; an empty one does not count. -/
def envText? (name : String) : IO (Option String) := do
  return (← IO.getEnv name).filter (· ≠ "")

/-- The machine, with the files that hold settings. -/
def host : IO Host := do
  let directory := (← IO.currentDir).toString
  let environment : Environment := {
    home := ← envText? "HOME"
    configHome := ← envText? "XDG_CONFIG_HOME"
    dataHome := ← envText? "XDG_DATA_HOME" }
  match environment.settingsDir? with
  | some settingsDir => discard (ensureUserSettings settingsDir)
  | none => pure ()
  let disk ← diskOf directory (settingsPaths environment directory)
  return { environment, disk, programs := fun _ => none }

/-- Whether something stands at a path. -/
def isPresent (path : String) : IO Bool := do ((← IO.currentDir) / path).pathExists

/-- Does one step of a rotation. -/
def doStep : FileStep → IO Unit
  | .discard path => do if ← isPresent path then IO.FS.removeFile path
  | .shift source target => do if ← isPresent source then IO.FS.rename source target
  | .move source target => IO.FS.rename source target

/-- Opens the log file, moving a long one away first. -/
def openLog (path : String) : IO Unit := do
  let here ← IO.currentDir
  match (here / path).parent with
  | some directory => IO.FS.createDirAll directory
  | none => pure ()
  if ← (here / path).pathExists then
    let size := (← (here / path).metadata).byteSize.toNat
    if maxLogSize ≤ size then
      for step in rotationSteps path maxLogFiles do
        doStep step
  discard (IO.FS.Handle.mk path .append)

/-! ### Frames -/

/-- The bytes up to the next line feed, in reverse. -/
partial def readLine (stream : IO.FS.Stream) (reversed : List UInt8) : IO (List UInt8) := do
  let bytes ← stream.read 1
  match bytes.toList with
  | [] => return reversed
  | b :: _ => if b = 10 then return b :: reversed else readLine stream (b :: reversed)

/-- The given number of bytes, or what is left of them; beyond the limit they are only skipped. -/
partial def readBytes (stream : IO.FS.Stream) (count : Nat) (keep : Bool) (chunks : ByteArray) :
    IO ByteArray := do
  if count = 0 then return chunks
  let bytes ← stream.read (USize.ofNat (min count 65536))
  if bytes.isEmpty then return chunks
  readBytes stream (count - bytes.size) keep (if keep then chunks ++ bytes else chunks)

/-- Reads one frame; `header` holds the header lines read so far. -/
partial def nextFrame (stream : IO.FS.Stream) (header : List UInt8) : IO FrameRead := do
  let line ← readLine stream []
  if line.isEmpty then return (readFrame maxFrameLength header).1
  let header := header ++ line.reverse
  match readHeader false none header with
  | .length n _ =>
    let keep := n ≤ maxFrameLength
    let body ← readBytes stream n keep ByteArray.empty
    return (readBody maxFrameLength n body.toList).1
  | .ended => nextFrame stream header
  | .refused .cutHeader _ => nextFrame stream header
  | .refused fault _ => return .refused fault
  | .broken fault _ => return .broken fault

/-- Writes bytes at once; a client that has gone does not stop the server. -/
def write (bytes : List UInt8) : IO Unit := do
  let stdout ← IO.getStdout
  try
    stdout.write bytes.toByteArray
    stdout.flush
  catch _ => pure ()

/-- Writes bytes to the error output. -/
def writeErrors (bytes : List UInt8) : IO Unit := do
  let stderr ← IO.getStderr
  stderr.write bytes.toByteArray

/-- Serves the client until it is done, and gives the exit code. -/
partial def serveClient (server : Server) : IO Nat := do
  let (server, outcome) := server.receive (← nextFrame (← IO.getStdin) [])
  let (sent, outbox) := server.outbox.take
  write (frames sent)
  match outcome with
  | none => serveClient (server.withOutbox outbox)
  | some (.ok code) => return code
  | some (.error e) =>
    writeErrors (errorLine (serverFailed e))
    return 1

/-- Serves the client with the settings of the machine. -/
def run (mode : Mode) : IO Nat := do
  let h ← host
  let (settings, h) := h.loadSettings
  try openLog (h.environment.logFile settings.log.file) catch _ => pure ()
  match mode with
  | .launch directory =>
    match h.start settings (directory.getD h.directory) with
    | .error e =>
      writeErrors (errorLine e.message)
      write (frames (launchFailure e))
    | .ok _ => pure ()
  | _ => pure ()
  serveClient (.fresh settings.analyzer)

end ServiceLang.CommandLine

open ServiceLang in
/-- The command line. -/
def main (args : List String) : IO UInt32 := do
  match Mode.ofArgs args with
  | .error argument =>
    CommandLine.writeErrors (errorLine (unknownArgument argument))
    return 1
  | .ok .version =>
    CommandLine.write (textBytes s!"{serverName} {serverVersion}\n")
    return 0
  | .ok mode => return UInt32.ofNat (← CommandLine.run mode)
