import ServiceLang.Toml.Build
import ServiceLang.Toml.Date
import ServiceLang.Toml.Number
import ServiceLang.Toml.Text

namespace ServiceLang.Toml

/-!
# Reading TOML

* `readValue`: a value at the start of a text;
* `readStatements`: the lines of a document;
* `parse`: a document.
-/

open TomlText (skipBlanks skipGaps skipLineRest readKey nestingLimit)

/-- The path of a key and its last part. -/
def splitKey (parts : List String) : Option (List String × String) :=
  parts.getLast?.map fun key => (parts.dropLast, key)

/-- A string, and what follows it. -/
def readText (s : List Char) : Option (Toml × List Char) :=
  (TomlText.readString s).map fun (text, s) => (.str (String.ofList text), s)

/-- A number, a date or a time, and what follows it. -/
def readNumeral (s : List Char) : Option (Toml × List Char) :=
  ((TomlDate.readMoment s).or (TomlNumber.readFloat s)).or (TomlNumber.readInteger s)

/-- The elements of an array up to its closing bracket; `fuel` bounds their number. A comma may
    follow the last one. -/
def readElements (readItem : List Char → Option (Toml × List Char)) :
    (fuel : Nat) → List Char → Option (List Toml × List Char)
  | 0, _ => none
  | fuel + 1, s =>
    match skipGaps s with
    | ']' :: s => some ([], s)
    | s => do
      let (item, s) ← readItem s
      match skipGaps s with
      | ',' :: s =>
        let (items, s) ← readElements readItem fuel s
        return (item :: items, s)
      | ']' :: s => return ([item], s)
      | _ => none

/-- The keys and values of an inline table up to its closing brace; `fuel` bounds their number. -/
def readAssignments (readItem : List Char → Option (Toml × List Char)) :
    (fuel : Nat) → List Char → Option (List (List String × String × Toml) × List Char)
  | 0, _ => none
  | fuel + 1, s => do
    let (parts, s) ← readKey s
    let (path, key) ← splitKey parts
    let '=' :: s := s | none
    let (value, s) ← readItem (skipBlanks s)
    match skipBlanks s with
    | ',' :: s =>
      let (assignments, s) ← readAssignments readItem fuel s
      return ((path, key, value) :: assignments, s)
    | '\x7d' :: s => return ([(path, key, value)], s)
    | _ => none

/-- The value at the start of a text, and what follows it; arrays and inline tables nest at most
    `depth` deep. -/
def readValue : (depth : Nat) → List Char → Option (Toml × List Char)
  | depth, s =>
    match s with
    | '[' :: s =>
      match depth with
      | 0 => none
      | depth + 1 =>
        (readElements (readValue depth) (s.length + 1) s).map fun (items, s) => (.arr items, s)
    | '\x7b' :: s =>
      match depth with
      | 0 => none
      | depth + 1 =>
        match skipBlanks s with
        | '\x7d' :: s => some (.table [], s)
        | s => do
          let (assignments, s) ← readAssignments (readValue depth) (s.length + 1) s
          let table ← Toml.ofAssignments assignments
          return (table, s)
    | '"' :: s => readText ('"' :: s)
    | '\'' :: s => readText ('\'' :: s)
    | 't' :: 'r' :: 'u' :: 'e' :: s => some (.bool true, s)
    | 'f' :: 'a' :: 'l' :: 's' :: 'e' :: s => some (.bool false, s)
    | s => readNumeral s

/-- A key and its value, up to the end of the line. -/
def readAssignment (s : List Char) : Option (Statement × List Char) := do
  let (parts, s) ← readKey s
  let (path, key) ← splitKey parts
  let '=' :: s := s | none
  let (value, s) ← readValue (nestingLimit - 1) (skipBlanks s)
  let s ← skipLineRest s
  return (.assign path key value, s)

/-- A header behind its opening brackets, up to the end of the line. -/
def readHeader (closing : List Char) (make : List String → String → Statement) (s : List Char) :
    Option (Statement × List Char) := do
  let (parts, s) ← readKey s
  let (path, key) ← splitKey parts
  let s ← Text.strip? closing s
  let s ← skipLineRest s
  return (make path key, s)

/-- The lines of a document; `fuel` bounds their number. -/
def readStatements : (fuel : Nat) → List Char → Option (List Statement)
  | 0, _ => none
  | fuel + 1, s =>
    match skipBlanks s with
    | [] => some []
    | '#' :: s => skipLineRest ('#' :: s) >>= readStatements fuel
    | '\n' :: s => readStatements fuel s
    | '\r' :: '\n' :: s => readStatements fuel s
    | '[' :: '[' :: s => do
      let (statement, s) ← readHeader [']', ']'] .element s
      return statement :: (← readStatements fuel s)
    | '[' :: s => do
      let (statement, s) ← readHeader [']'] .table s
      return statement :: (← readStatements fuel s)
    | s => do
      let (statement, s) ← readAssignment s
      return statement :: (← readStatements fuel s)

/-- Without the byte order mark that a text may start with. -/
def dropMark : List Char → List Char
  | '\ufeff' :: s => s
  | s => s

/-- Reads a document. -/
def parse (text : String) : Option Toml := do
  let s := dropMark text.toList
  let statements ← readStatements (s.length + 1) s
  Toml.ofStatements statements

end ServiceLang.Toml
