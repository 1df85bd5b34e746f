namespace ServiceLang.Path

/-!
# Paths

A path is a text; slashes separate its parts. A part is a name, or `.` for the directory itself,
or `..` for the directory above.

* `parts`, `names`: all parts of a path, and those other than `.`;
* `join`: a path seen from another one;
* `ancestors`: a path and the directories above it.
-/

/-- Splits a text at slashes; `reversed` holds the part so far. -/
def splitSlashes (reversed : List Char) : List Char → List String
  | [] => [String.ofList reversed.reverse]
  | c :: s =>
    if c = '/' then String.ofList reversed.reverse :: splitSlashes [] s
    else splitSlashes (c :: reversed) s

/-- The parts of a path. -/
def parts (p : String) : List String := (splitSlashes [] p.toList).filter (· ≠ "")

/-- The parts of a path other than `.`. -/
def names (p : String) : List String := (parts p).filter (· ≠ ".")

/-- Whether a path starts at the root. -/
def isAbsolute (p : String) : Bool := p.toList.head? == some '/'

/-- Whether a path names a directory by a slash at its end. -/
def endsInSlash (p : String) : Bool := p.toList.getLast? == some '/'

/-- A path seen from another one. -/
def join (root p : String) : String :=
  if isAbsolute p then p
  else if root = "" || endsInSlash root then root ++ p
  else root ++ "/" ++ p

/-- The last name of a path; none for the root, the empty path and one that ends in `..`. -/
def fileName? (p : String) : Option String :=
  match (names p).getLast? with
  | some ".." => none
  | other => other

/-- The path of the given names from the root. -/
def ofNames (names : List String) : String := "/" ++ String.intercalate "/" names

/-- The names that lead from the root to a place, with each `..` carried out. -/
def resolveNames (start : List String) (names : List String) : List String :=
  names.foldl (fun place name => if name = ".." then place.dropLast else place ++ [name]) start

/-- The names that lead from the root to a path seen from a directory, whatever stands there. -/
def place (directory : List String) (p : String) : List String :=
  resolveNames (if isAbsolute p then [] else directory) (names p)

/-- The beginnings of a list, the longest first. -/
def beginnings {α : Type} (l : List α) : List (List α) := (List.range (l.length + 1)).reverse.map l.take

/-- The names of the directories at and above an absolute path, the nearest first. -/
def upward (p : String) : List (List String) := beginnings (names p)

/-- A path and those of the directories above it, the nearest first, without the root and the
    empty path. -/
def ancestors (p : String) : List String :=
  let lead := if isAbsolute p then "/" else ""
  match (beginnings (names p)).dropLast with
  | [] => []
  | _ :: above => p :: above.map fun names => lead ++ String.intercalate "/" names

end ServiceLang.Path
