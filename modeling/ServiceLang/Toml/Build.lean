import ServiceLang.Keyed
import ServiceLang.Toml.Basic

namespace ServiceLang

/-!
# Tables under construction

A document defines tables by headers, by headers of tables inside them, and by dotted keys. No
table is defined twice, and a table that dotted keys opened is extended by dotted keys only.

* `TomlNode`: a value, a table or a list of tables under construction;
* `Statement`: a line of a document;
* `Toml.ofStatements`: the document, or none when a definition is repeated.
-/

/-- How a table came about: by its own header, by the header of a table inside it, or by a dotted
    key. -/
inductive TableOrigin where
  | header
  | implied
  | dotted
  deriving DecidableEq, Repr

/-- A finished value, a table, or a list of tables of which the last can grow. -/
inductive TomlNode where
  | value (v : Toml)
  | table (origin : TableOrigin) (entries : List (String × TomlNode))
  | tables (elements : List (List (String × TomlNode)))

namespace TomlNode

/-- The entries of a table under construction. -/
abbrev Entries := List (String × TomlNode)

mutual

/-- The value that a node has become. -/
def toToml : TomlNode → Toml
  | .value v => v
  | .table _ entries => .table (entriesToToml entries)
  | .tables elements => .arr (elementsToToml elements)

/-- The entries of a finished table. -/
def entriesToToml : List (String × TomlNode) → List (String × Toml)
  | [] => []
  | (key, node) :: rest => (key, node.toToml) :: entriesToToml rest

/-- The elements of a finished list of tables. -/
def elementsToToml : List (List (String × TomlNode)) → List Toml
  | [] => []
  | entries :: rest => .table (entriesToToml entries) :: elementsToToml rest

end

/-- How a table comes about that a path goes through. -/
def originOn (viaDots : Bool) : TableOrigin := if viaDots then .dotted else .implied

/-- Changes the table at the end of a path, opening the tables on the way that do not exist. A
    path goes into the last table of a list, but not into a value; a path of a dotted key does not
    go into a table that has a header. -/
def modifyAt (viaDots : Bool) (change : TableOrigin → Entries → Option Entries) :
    (path : List String) → TableOrigin → Entries → Option Entries
  | [], origin, entries => change origin entries
  | key :: path, _, entries =>
    match entries.lookup key with
    | none => do
      let inner ← modifyAt viaDots change path (originOn viaDots) []
      return setKey key (.table (originOn viaDots) inner) entries
    | some (.table origin inner) =>
      if viaDots && origin == .header then none
      else do
        let inner ← modifyAt viaDots change path origin inner
        return setKey key (.table origin inner) entries
    | some (.tables elements) =>
      match elements.getLast? with
      | none => none
      | some inner => do
        let inner ← modifyAt viaDots change path .header inner
        return setKey key (.tables (elements.dropLast ++ [inner])) entries
    | some (.value _) => none

/-- Adds a new entry. -/
def addNew (key : String) (node : TomlNode) (entries : Entries) : Option Entries :=
  if (entries.lookup key).isSome then none else some (setKey key node entries)

/-- Sets the key at the end of a dotted key, seen from a table. -/
def assign (path : List String) (key : String) (v : Toml) (origin : TableOrigin)
    (entries : Entries) : Option Entries :=
  modifyAt true
    (fun origin entries =>
      if (origin == .dotted) == path.isEmpty then none else addNew key (.value v) entries)
    path origin entries

/-- Takes a header: the table is new, or only tables inside it have been defined. Either way it
    stands last among its neighbours. -/
def openTable (key : String) (_ : TableOrigin) (entries : Entries) : Option Entries :=
  match entries.lookup key with
  | none => some (setKey key (.table .header []) entries)
  | some (.table .implied inner) => some (eraseKey key entries ++ [(key, .table .header inner)])
  | _ => none

/-- Takes a header that adds a table to a list. -/
def openElement (key : String) (_ : TableOrigin) (entries : Entries) : Option Entries :=
  match entries.lookup key with
  | none => some (setKey key (.tables [[]]) entries)
  | some (.tables elements) => some (setKey key (.tables (elements ++ [[]])) entries)
  | _ => none

end TomlNode

/-- A line of a document: a value for a key, or the header of a table or of an element of a list
    of tables. The last part of the key stands apart. -/
inductive Statement where
  | assign (path : List String) (key : String) (value : Toml)
  | table (path : List String) (key : String)
  | element (path : List String) (key : String)

/-- A document under construction: its tables, and the path of the table that keys go into. -/
structure TomlDraft where
  root : TomlNode.Entries := []
  current : List String := []

/-- The draft with one more line. -/
def TomlDraft.add (d : TomlDraft) : Statement → Option TomlDraft
  | .assign path key value => do
    let root ← TomlNode.modifyAt false (TomlNode.assign path key value) d.current .header d.root
    return { d with root }
  | .table path key => do
    let root ← TomlNode.modifyAt false (TomlNode.openTable key) path .header d.root
    return ⟨root, path ++ [key]⟩
  | .element path key => do
    let root ← TomlNode.modifyAt false (TomlNode.openElement key) path .header d.root
    return ⟨root, path ++ [key]⟩

/-- The document of some lines. -/
def Toml.ofStatements (statements : List Statement) : Option Toml := do
  let draft ← statements.foldlM TomlDraft.add {}
  return .table (TomlNode.entriesToToml draft.root)

/-- The inline table of some keys and values. -/
def Toml.ofAssignments (assignments : List (List String × String × Toml)) : Option Toml :=
  Toml.ofStatements (assignments.map fun (path, key, value) => .assign path key value)

end ServiceLang
