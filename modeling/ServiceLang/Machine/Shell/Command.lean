import ServiceLang.Machine.Shell.Token

namespace ServiceLang.Shell

/-!
# The commands of a script

* `Command`: a command with its parts;
* `cut`: tokens cut at separators;
* `readSimple?`, `readPipeline?`, `readScript?`: a command, commands with pipes between them, and a
  whole script.
-/

/-- A redirection: a stream, and where it leads. -/
structure Redirection where
  stream : Nat
  direction : Direction
  target : Word
  deriving DecidableEq, Repr

/-- When a command runs: always, or as the one before it succeeded or failed. -/
inductive Connector where
  | always
  | onSuccess
  | onFailure
  deriving DecidableEq, Repr

/-- A command. -/
inductive Command where
  | simple (words : List Word) (redirections : List Redirection)
  | piped (first second : Command)
  | chained (first : Command) (connector : Connector) (second : Command)
  deriving Repr

/-- The connector of an operator. -/
def connector? : Token → Option Connector
  | .operator ";" => some .always
  | .operator "&&" => some .onSuccess
  | .operator "||" => some .onFailure
  | _ => none

/-- Whether a command has to follow: a line may end behind such a token. -/
def isUnfinished (t : Token) : Bool :=
  ["&&", "||", "|"].any (t = .operator ·)

/-- The tokens without the ends of lines at which a command goes on. -/
def joinLines : List Token → List Token
  | [] => []
  | t :: ts =>
    let ts := joinLines ts
    t :: if isUnfinished t then ts.dropWhile (· = .operator ";") else ts

/-- The tokens before the first separator, then each separator with the tokens up to the next. -/
def cut {α : Type} (separator? : Token → Option α) :
    List Token → List Token × List (α × List Token)
  | [] => ([], [])
  | t :: ts =>
    let (lead, rest) := cut separator? ts
    match separator? t with
    | some separator => ([], (separator, lead) :: rest)
    | none => (t :: lead, rest)

/-- The words and redirections that tokens start with. -/
def readWords : List Token → List Word × List Redirection × List Token
  | .word pieces :: ts =>
    let (words, redirections, rest) := readWords ts
    (pieces :: words, redirections, rest)
  | .redirect stream direction :: .word target :: ts =>
    let (words, redirections, rest) := readWords ts
    (words, ⟨stream, direction, target⟩ :: redirections, rest)
  | ts => ([], [], ts)

/-- A command of words and redirections. -/
def readSimple? (ts : List Token) : Option Command :=
  match readWords ts with
  | ([], [], _) => none
  | (words, redirections, []) => some (.simple words redirections)
  | _ => none

/-- Commands with pipes between them. -/
def readPipeline? (ts : List Token) : Option Command := do
  let (lead, rest) := cut (fun t => if t = .operator "|" then some () else none) ts
  rest.foldlM (fun first part => return .piped first (← readSimple? part.2)) (← readSimple? lead)

/-- The command of a whole script. Separators with nothing between them do not count. -/
def readScript? (script : List Char) : Option Command := do
  let (lead, rest) := cut connector? (joinLines (tokens script))
  let first ← if lead.isEmpty then some (.simple [] []) else readPipeline? lead
  rest.foldlM
    (fun first part =>
      if part.2.isEmpty then some first
      else return .chained first part.1 (← readPipeline? part.2))
    first

end ServiceLang.Shell
