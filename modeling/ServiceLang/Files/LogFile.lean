import ServiceLang.Files.Disk

namespace ServiceLang

/-!
# Log files

A log file that has grown too long is moved to the same name with the number 1, and the earlier
ones move up by one; beyond a number of files the oldest one is dropped.

* `rotationSteps`: what a rotation does;
* `Disk.rotate`: a rotation, if it is due;
* `Disk.appendLog`: opening a log file and writing at its end.
-/

/-- The length at which a log file is moved away, in bytes. -/
def maxLogSize : Nat := 10485760

/-- The number of older log files that are kept. -/
def maxLogFiles : Nat := 5

/-- The path of an older log file. -/
def numberedLog (path : String) (k : Nat) : String := s!"{path}.{k}"

/-- A step of a rotation: drop a file or move one if it is there, or move one that has to be
    there. -/
inductive FileStep where
  | discard (path : String)
  | shift (source target : String)
  | move (source target : String)
  deriving DecidableEq, Repr

/-- The steps that move a log file away while keeping the given number of older ones: the oldest
    is dropped, the others move up, the highest number first, and the log file follows. -/
def rotationSteps (path : String) (keep : Nat) : List FileStep :=
  let shifts := (List.range' 1 (keep - 1)).reverse.map fun k =>
    FileStep.shift (numberedLog path k) (numberedLog path (k + 1))
  .discard (numberedLog path keep) :: (shifts ++ [.move path (numberedLog path 1)])

namespace Disk

/-- Does one step. -/
def step (d : Disk) : FileStep → Attempt
  | .discard path => if d.contains path then .ofResult d (d.dropFile path) else { disk := d }
  | .shift source target =>
    if d.contains source then .ofResult d (d.rename source target) else { disk := d }
  | .move source target => .ofResult d (d.rename source target)

/-- Does steps one after another, up to one that fails. -/
def perform (d : Disk) : List FileStep → Attempt
  | [] => { disk := d }
  | s :: rest => (d.step s).andThen fun d => d.perform rest

/-- Moves the log file away if it is there and has the given length, and older ones are kept at
    all. -/
def rotate (d : Disk) (path : String) (maxSize keep : Nat) : Attempt :=
  match d.find path with
  | .error .notFound => { disk := d }
  | .error e => { disk := d, fault := some e }
  | .ok found =>
    if found.size < maxSize ∨ keep = 0 then { disk := d } else d.perform (rotationSteps path keep)

/-- Opens a log file, making its directory and moving it away as needed, and writes at its end. -/
def appendLog (d : Disk) (path : String) (maxSize keep : Nat) (content : List UInt8) : Attempt :=
  (d.makeParent path).andThen fun d =>
  (d.rotate path maxSize keep).andThen fun d =>
  .ofResult d (d.addContent path content)

end Disk

end ServiceLang
