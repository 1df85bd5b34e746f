import ServiceLang.Text.Number
import ServiceLang.Text.Space
import ServiceLang.Text.Word

namespace ServiceLang.Pattern

/-!
# Line patterns

What a line declares, judged by its beginning alone. Each pattern reads a line from its first
character that is not blank and does not look past what it needs, so a half-typed declaration
matches as soon as its name is there.

* `server?`: the digits of a port;
* `endpoint?`: a method and a path, quoted or not;
* `callable?`: a name and the raw text between the parentheses;
* `class?`: a class name.
-/

open Text

/-- What follows a keyword and the blanks behind it, of which there is at least one. -/
def afterKeyword? (keyword : String) (s : List Char) : Option (List Char) :=
  match strip? keyword.toList s with
  | some (c :: rest) => if isSpace c then some (trimStart rest) else none
  | _ => none

/-- Whether no word goes on at the start of a text. -/
def wordEnds : List Char → Bool
  | [] => true
  | c :: _ => !isWordChar c

/-- The digits of `server <digits>`, of any script, up to the end of the word. -/
def server? (s : List Char) : Option (List Char) := do
  let rest ← afterKeyword? "server" s
  let run := rest.takeWhile isDecimal
  if run ≠ [] ∧ wordEnds (rest.dropWhile isDecimal) then some run else none

/-- A character of a path that is written without quotes. -/
def isBarePathChar (c : Char) : Bool := !(isSpace c || c == ':' || c == '"')

/-- The path at the start of a text: up to the closing quote, if there is one, or a bare run. -/
def path? : List Char → Option (List Char)
  | '"' :: quoted => some (quoted.takeWhile (· != '"'))
  | s =>
    match s.takeWhile isBarePathChar with
    | [] => none
    | run => some run

/-- The method and the path of `endpoint <METHOD> <path>`. -/
def endpoint? (s : List Char) : Option (List Char × List Char) := do
  let rest ← afterKeyword? "endpoint" s
  let method := rest.takeWhile isAsciiLetter
  match method, rest.dropWhile isAsciiLetter with
  | _ :: _, c :: after =>
    if isSpace c then (path? (trimStart after)).map (method, ·) else none
  | _, _ => none

/-- The raw text between the parentheses, trimmed, when a parenthesis opens; the closing one may
    be missing. -/
def rawArgs (s : List Char) : List Char :=
  match trimStart s with
  | '(' :: inside => trim (inside.takeWhile (· != ')'))
  | _ => []

/-- The name and the raw arguments of `<keyword> <name>(<args>)`. -/
def callable? (keyword : String) (s : List Char) : Option (List Char × List Char) := do
  let (name, after) ← takeIdent? (← afterKeyword? keyword s)
  return (name, rawArgs after)

/-- The name and the raw arguments of a method line. -/
def method? (s : List Char) : Option (List Char × List Char) :=
  callable? "method" s <|> callable? "func" s

/-- The name of `class <name>`. -/
def class? (s : List Char) : Option (List Char) := do
  let (name, _) ← takeIdent? (← afterKeyword? "class" s)
  return name

end ServiceLang.Pattern
