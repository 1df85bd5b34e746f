import ServiceLang.Outline.Basic
import ServiceLang.Outline.Pattern
import ServiceLang.Text.Lines

namespace ServiceLang

/-!
# Scanning a text into its outline

Lines are matched at any indentation. A class owns the lines below it that are indented deeper
than its own line, and of those only method lines are recorded. Blank lines do not end a class;
the first other line at its indentation or less does.

* `Scan`: the outline so far and the class that is still open;
* `Scan.step`: one line;
* `Outline.ofText`: a whole text.
-/

open Text

/-- The outline so far, and the open class with its indentation. -/
structure Scan where
  outline : Outline := {}
  openClass : Option (Nat × ClassEntry) := none
  deriving DecidableEq, Repr

/-- Ends the open class and files it. -/
def Scan.close (scan : Scan) : Scan :=
  match scan.openClass with
  | none => scan
  | some (_, entry) =>
    { outline := { scan.outline with classes := scan.outline.classes ++ [entry] } }

/-- The function entry of a matched name and its arguments. -/
def FunctionEntry.ofMatch (found : List Char × List Char) (line : List Char) (number : Nat) :
    FunctionEntry :=
  ⟨String.ofList found.1, String.ofList found.2, number, .ofContent line⟩

/-- A class entry with the method that a line declares, if it declares one. -/
def ClassEntry.record (entry : ClassEntry) (line : List Char) (number : Nat) : ClassEntry :=
  match Pattern.method? (trimStart line) with
  | some found => { entry with methods := entry.methods ++ [.ofMatch found line number] }
  | none => entry

/-- Records what a line outside every class declares. The patterns are tried in the order
    server, endpoint, function, class; a port that is too large is dropped, and its line is tried
    no further. -/
def Scan.declare (scan : Scan) (line : List Char) (number : Nat) : Scan :=
  let content := trimStart line
  let span := Span.ofContent line
  let outline := scan.outline
  match Pattern.server? content with
  | some run =>
    match readBounded maxPort run with
    | some port => { scan with outline := { outline with server := some ⟨port, number, span⟩ } }
    | none => scan
  | none =>
    match Pattern.endpoint? content with
    | some (method, path) =>
      let entry := ⟨String.ofList method, String.ofList path, number, span⟩
      { scan with outline := { outline with endpoints := outline.endpoints ++ [entry] } }
    | none =>
      match Pattern.callable? "func" content with
      | some found =>
        let entry := FunctionEntry.ofMatch found line number
        { scan with outline := { outline with functions := outline.functions ++ [entry] } }
      | none =>
        match Pattern.class? content with
        | some name =>
          { scan with openClass := some (indentation line, ⟨String.ofList name, number, span, []⟩) }
        | none => scan

/-- One line: a blank one changes nothing, one inside the open class may add a method, and any
    other ends the class and is recorded on its own. -/
def Scan.step (scan : Scan) (line : List Char) (number : Nat) : Scan :=
  if isBlank line then scan
  else match scan.openClass with
    | some (indent, entry) =>
      if indent < indentation line then
        { scan with openClass := some (indent, entry.record line number) }
      else scan.close.declare line number
    | none => scan.declare line number

/-- The scan of numbered lines. -/
def Scan.run (scan : Scan) (lines : List (List Char × Nat)) : Scan :=
  lines.foldl (fun scan (line, number) => scan.step line number) scan

/-- The outline of a text. -/
def Outline.ofText (text : String) : Outline :=
  (Scan.run {} (numberedLines 0 text.toList)).close.outline

end ServiceLang
