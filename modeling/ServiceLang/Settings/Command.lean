import ServiceLang.Files.Path
import ServiceLang.Settings.Basic

namespace ServiceLang

/-!
# The command of the server

A command may use variables for the workspace. A relative command that names a path is taken from
the workspace; a bare name is left to be looked up.

* `Segment`, `segments`: a command in its characters, variables and unfinished variable;
* `expand`: the command with the values of its variables;
* `resolveCommand`: the program to start.
-/

/-- The command when none is set. -/
def defaultCommand : String := "webdsl-ls"

/-- A part of a command: a character, a variable, or a variable that never ends. -/
inductive Segment where
  | char (c : Char)
  | variable (name : List Char)
  | unfinished (name : List Char)
  deriving DecidableEq, Repr

/-- The parts of a command, of which `reversed` holds the name of the variable that has begun. -/
def segmentsFrom : (reversed : Option (List Char)) → List Char → List Segment
  | none, [] => []
  | some reversed, [] => [.unfinished reversed.reverse]
  | none, '$' :: '\x7b' :: s => segmentsFrom (some []) s
  | none, c :: s => .char c :: segmentsFrom none s
  | some reversed, c :: s =>
    if c = '\x7d' then .variable reversed.reverse :: segmentsFrom none s
    else segmentsFrom (some (c :: reversed)) s

/-- The parts of a command. -/
def segments (s : List Char) : List Segment := segmentsFrom none s

/-- The value of a variable. -/
def variableValue? (root : String) (name : String) : Option String :=
  if name = "workspaceFolder" ∨ name = "workspaceRoot" then some root
  else if name = "workspaceFolderBasename" then some ((Path.fileName? root).getD "")
  else none

/-- The text of a part. -/
def Segment.expand (root : String) : Segment → Except SettingsError (List Char)
  | .char c => .ok [c]
  | .variable name =>
    match variableValue? root (String.ofList name) with
    | some value => .ok value.toList
    | none => .error (.unknownVariable (String.ofList name))
  | .unfinished name => .ok ('$' :: '\x7b' :: name)

/-- The text of some parts, or the error of the first one that has none. -/
def expandSegments (root : String) (segments : List Segment) :
    Except SettingsError (List Char) := do
  let parts ← segments.mapM (Segment.expand root)
  return parts.flatten

/-- A command with the values of its variables. -/
def expandCommand (root : String) (s : List Char) : Except SettingsError (List Char) :=
  expandSegments root (segments s)

/-- The program to start for a command in a workspace. -/
def resolveCommand (command : Option String) (root : String) : Except SettingsError String :=
  match Text.trim (command.getD "").toList with
  | [] => .ok defaultCommand
  | raw => do
    let expanded ← expandCommand root raw
    let path := String.ofList expanded
    return if Path.isAbsolute path || !expanded.contains '/' then path else Path.join root path

end ServiceLang
