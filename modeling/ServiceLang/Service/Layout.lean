import ServiceLang.Text.Lines

namespace ServiceLang

/-!
# Layout of a description

* `SourceLine`: a line that is neither blank nor a comment, with its number and indentation;
* `significantLines`: the lines of a text that matter.
-/

/-- A significant line: its number, counted from 1, its indentation and its trimmed content. -/
structure SourceLine where
  number : Nat
  indent : Nat
  content : List Char
  deriving DecidableEq, Repr

/-- The significant line made of a physical one; blank lines and `#` comments make none. -/
def SourceLine.ofLine? (line : List Char) (number : Nat) : Option SourceLine :=
  match Text.trim line with
  | [] => none
  | c :: rest => if c = '#' then none else some ⟨number, Text.indentation line, c :: rest⟩

/-- The lines of a text that are neither blank nor comments. -/
def significantLines (text : List Char) : List SourceLine :=
  (Text.numberedLines 1 text).filterMap fun (line, number) => SourceLine.ofLine? line number

end ServiceLang
