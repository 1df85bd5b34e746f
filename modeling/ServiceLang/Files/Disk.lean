import ServiceLang.Files.Path
import ServiceLang.Files.Tree

namespace ServiceLang

/-!
# Disks

A disk is a file tree seen from a working directory, and its files are named by paths.

* `Disk.target`: where a path leads;
* `find`, `contentOf`: looking at what stands at a path;
* `makeDir`, `setContent`, `addContent`, `dropFile`, `rename`: changes, each done as a whole or not
  at all;
* `Attempt`: what several changes leave, those before a failure included;
* `makeDirs`: making a directory and those above it.
-/

/-- A file tree and the place of the working directory. -/
structure Disk where
  tree : FileTree
  directory : List String
  deriving Repr

/-- Where a path leads: to a name in a directory, or to the directory itself if the path ends in
    `.` or `..` or is the root. With a slash at its end it can only mean a directory. -/
structure Target where
  directory : List String
  name : Option String := none
  slash : Bool := false
  deriving DecidableEq, Repr

/-- The place of a target. -/
def Target.place (t : Target) : List String := t.directory ++ t.name.toList

namespace Disk

/-- The largest length of a path, in bytes. -/
def maxPathSize : Nat := 4095

/-- Where a path leads. The directories on the way have to exist; what it leads to need not. -/
def target (d : Disk) (p : String) : Except OsError Target :=
  if p.toList.contains '\x00' then .error .nulInName
  else if p = "" then .error .notFound
  else if maxPathSize < p.utf8ByteSize then .error .nameTooLong
  else do
    let start := if Path.isAbsolute p then [] else d.directory
    let directory ← d.tree.walk start (Path.parts p).dropLast
    match (Path.parts p).getLast? with
    | none => return { directory }
    | some "." => return { directory }
    | some ".." => return { directory := directory.dropLast }
    | some name => return { directory, name, slash := Path.endsInSlash p }

/-- What stands at a target. -/
def lookup (d : Disk) (t : Target) : Except OsError FileTree :=
  match t.name with
  | none => d.tree.find t.directory
  | some name => d.tree.entry t.directory name

/-- What stands at a target, if something does. -/
def lookup? (d : Disk) (t : Target) : Except OsError (Option FileTree) :=
  match d.lookup t with
  | .ok found => .ok (some found)
  | .error .notFound => .ok none
  | .error e => .error e

/-- What stands at a path. -/
def find (d : Disk) (p : String) : Except OsError FileTree := do
  let target ← d.target p
  let found ← d.lookup target
  if target.slash && !found.isDir then throw .notADirectory else return found

/-- Whether something stands at a path. -/
def contains (d : Disk) (p : String) : Bool := (d.find p).isOk

/-- Whether a directory stands at a path. -/
def hasDir (d : Disk) (p : String) : Bool :=
  match d.find p with
  | .ok found => found.isDir
  | .error _ => false

/-- Whether a file stands at a path. -/
def hasFile (d : Disk) (p : String) : Bool :=
  match d.find p with
  | .ok found => !found.isDir
  | .error _ => false

/-- The disk seen from the directory at a path, if there is one. -/
def enter? (d : Disk) (p : String) : Option Disk :=
  if d.hasDir p then (d.target p).toOption.map fun t => { d with directory := t.place } else none

/-- The bytes of the file at a path. -/
def contentOf (d : Disk) (p : String) : Except OsError (List UInt8) := do
  match ← d.find p with
  | .file content => return content
  | .dir _ => throw .isADirectory

/-! ### Single changes -/

/-- The disk with something put at a place. -/
def put (d : Disk) (new : FileTree) (place : List String) : Except OsError Disk := do
  return { d with tree := ← FileTree.put new d.tree place }

/-- Makes a directory. -/
def makeDir (d : Disk) (p : String) : Except OsError Disk := do
  let target ← d.target p
  match ← d.lookup? target with
  | some _ => throw .alreadyExists
  | none => d.put .empty target.place

/-- The place of a file that is opened for writing, and its bytes, none if it is new. -/
def openFile (d : Disk) (p : String) : Except OsError (List String × List UInt8) := do
  let target ← d.target p
  if target.name.isNone || target.slash then throw .isADirectory
  else
    match ← d.lookup? target with
    | some (.file content) => return (target.place, content)
    | some (.dir _) => throw .isADirectory
    | none => return (target.place, [])

/-- Writes the file at a path, in place of an earlier one. -/
def setContent (d : Disk) (p : String) (content : List UInt8) : Except OsError Disk := do
  let (place, _) ← d.openFile p
  d.put (.file content) place

/-- Writes at the end of the file at a path, which is made if it does not exist. -/
def addContent (d : Disk) (p : String) (content : List UInt8) : Except OsError Disk := do
  let (place, earlier) ← d.openFile p
  d.put (.file (earlier ++ content)) place

/-- Takes away the file at a path; a directory is refused. -/
def dropFile (d : Disk) (p : String) : Except OsError Disk := do
  let target ← d.target p
  if target.name.isNone then throw .isADirectory
  else
    match ← d.lookup target with
    | .dir _ => throw .isADirectory
    | .file _ =>
      if target.slash then throw .notADirectory
      else return { d with tree := ← d.tree.remove target.place }

/-- Whether one tree may take the place of another. -/
def mayReplace : (new old : FileTree) → Except OsError Unit
  | .dir _, .file _ => .error .notADirectory
  | .file _, .dir _ => .error .isADirectory
  | .dir _, .dir (_ :: _) => .error .notEmpty
  | _, _ => .ok ()

/-- Moves what stands at one path to another. A directory cannot move into itself. -/
def rename (d : Disk) (source destination : String) : Except OsError Disk := do
  let a ← d.target source
  let b ← d.target destination
  if a.name.isNone || b.name.isNone then throw .busy
  else
    let found ← d.lookup a
    let present ← d.lookup? b
    if !found.isDir && (a.slash || b.slash) then throw .notADirectory
    else if a.place.isPrefixOf b.directory then throw .invalidArgument
    else if b.place.isPrefixOf a.directory then throw .notEmpty
    else if a.place = b.place then return d
    else
      match present with
      | some old => mayReplace found old
      | none => pure ()
      let tree ← d.tree.remove a.place
      put { d with tree } found b.place

end Disk

/-! ### Several changes -/

/-- What an attempt to change files leaves: the disk with all changes made before it failed, and
    the error if it did. -/
structure Attempt where
  disk : Disk
  fault : Option OsError := none

namespace Attempt

/-- The attempt at a single change. -/
def ofResult (d : Disk) : Except OsError Disk → Attempt
  | .ok changed => { disk := changed }
  | .error e => { disk := d, fault := some e }

/-- One attempt and, unless it fails, another. -/
def andThen (a : Attempt) (next : Disk → Attempt) : Attempt :=
  match a.fault with
  | none => next a.disk
  | some _ => a

end Attempt

namespace Disk

/-- Makes a directory unless it is there already. -/
def ensureDir (d : Disk) (p : String) : Attempt :=
  match d.makeDir p with
  | .ok changed => { disk := changed }
  | .error e =>
    if e = .alreadyExists && d.hasDir p then { disk := d } else { disk := d, fault := some e }

/-- Makes the first of some directories; the others are those above it, the nearest first, and
    are made where they are missing. -/
def ensureDirs (d : Disk) : List String → Attempt
  | [] => { disk := d }
  | p :: above =>
    let attempt := d.ensureDir p
    if attempt.fault = some .notFound then (d.ensureDirs above).andThen (·.ensureDir p)
    else attempt

/-- Makes the directory at a path and those above it. -/
def makeDirs (d : Disk) (p : String) : Attempt := d.ensureDirs (Path.ancestors p)

/-- Makes the directory that a path names something in. -/
def makeParent (d : Disk) (p : String) : Attempt := d.ensureDirs (Path.ancestors p).tail

end Disk

end ServiceLang
