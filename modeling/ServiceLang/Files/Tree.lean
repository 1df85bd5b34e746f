import ServiceLang.Keyed

namespace ServiceLang

/-!
# File trees

* `OsError`: why an operation on files fails;
* `FileTree`: a file with its bytes, or a directory;
* `FileTree.find`, `put`, `remove`: reading and changing a tree at a place, which is the list of
  the names that lead to it;
* `FileTree.walk`: the place that the parts of a path lead to;
* `FileTree.files`: all files with their places.
-/

/-- Why an operation fails. -/
inductive OsError where
  | notFound
  | permissionDenied
  | busy
  | alreadyExists
  | notADirectory
  | isADirectory
  | invalidArgument
  | nameTooLong
  | notEmpty
  | nulInName
  deriving DecidableEq, Repr

/-- The error in the words of the system, with its number. A path that cannot be passed to the
    system has no number. -/
def OsError.message : OsError → String
  | .notFound => "No such file or directory (os error 2)"
  | .permissionDenied => "Permission denied (os error 13)"
  | .busy => "Device or resource busy (os error 16)"
  | .alreadyExists => "File exists (os error 17)"
  | .notADirectory => "Not a directory (os error 20)"
  | .isADirectory => "Is a directory (os error 21)"
  | .invalidArgument => "Invalid argument (os error 22)"
  | .nameTooLong => "File name too long (os error 36)"
  | .notEmpty => "Directory not empty (os error 39)"
  | .nulInName => "file name contained an unexpected NUL byte"

/-- A file with its bytes, or a directory with what is in it. -/
inductive FileTree where
  | file (content : List UInt8)
  | dir (entries : List (String × FileTree))
  deriving Repr

namespace FileTree

/-- The tree without files. -/
def empty : FileTree := .dir []

/-- Whether the tree is a directory. -/
def isDir : FileTree → Bool
  | .dir _ => true
  | .file _ => false

/-- The length of a tree as a file; a directory counts as one block. -/
def size : FileTree → Nat
  | .file content => content.length
  | .dir _ => 4096

/-- What stands at a place. -/
def find : FileTree → (place : List String) → Except OsError FileTree
  | t, [] => .ok t
  | .file _, _ :: _ => .error .notADirectory
  | .dir entries, name :: place =>
    match entries.lookup name with
    | some t => t.find place
    | none => .error .notFound

/-- Whether a file stands at a place. -/
def hasFile (t : FileTree) (place : List String) : Bool :=
  match t.find place with
  | .ok found => !found.isDir
  | .error _ => false

/-- Puts something at a place, instead of what stands there. The directory has to exist. -/
def put (new : FileTree) : FileTree → (place : List String) → Except OsError FileTree
  | _, [] => .ok new
  | .file _, _ :: _ => .error .notADirectory
  | .dir entries, [name] => .ok (.dir (setKey name new entries))
  | .dir entries, name :: place =>
    match entries.lookup name with
    | some t => do return .dir (setKey name (← put new t place) entries)
    | none => .error .notFound

/-- Takes away what stands at a place. -/
def remove : FileTree → (place : List String) → Except OsError FileTree
  | _, [] => .error .busy
  | .file _, _ :: _ => .error .notADirectory
  | .dir entries, [name] =>
    if (entries.lookup name).isSome then .ok (.dir (eraseKey name entries)) else .error .notFound
  | .dir entries, name :: place =>
    match entries.lookup name with
    | some t => do return .dir (setKey name (← t.remove place) entries)
    | none => .error .notFound

/-- The largest length of a name, in bytes. -/
def maxNameSize : Nat := 255

/-- What stands under a name in a directory. -/
def entry (t : FileTree) (directory : List String) (name : String) : Except OsError FileTree :=
  if maxNameSize < name.utf8ByteSize then .error .nameTooLong else t.find (directory ++ [name])

/-- The place that the parts of a path lead to from a directory. All of them have to be
    directories, also those that `..` leaves again. -/
def walk (t : FileTree) : (directory : List String) → (parts : List String) →
    Except OsError (List String)
  | directory, [] => .ok directory
  | directory, part :: parts =>
    if part = "." then t.walk directory parts
    else if part = ".." then t.walk directory.dropLast parts
    else
      match t.entry directory part with
      | .ok (.dir _) => t.walk (directory ++ [part]) parts
      | .ok (.file _) => .error .notADirectory
      | .error e => .error e

mutual

/-- All files with their places. -/
def files : FileTree → List (List String × List UInt8)
  | .file content => [([], content)]
  | .dir entries => entryFiles entries

/-- All files below the entries of a directory. -/
def entryFiles : List (String × FileTree) → List (List String × List UInt8)
  | [] => []
  | (name, t) :: rest =>
    (t.files.map fun (place, content) => (name :: place, content)) ++ entryFiles rest

end

end FileTree

end ServiceLang
