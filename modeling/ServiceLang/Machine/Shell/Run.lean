import ServiceLang.Machine.Program
import ServiceLang.Machine.Shell.Command

namespace ServiceLang.Shell

/-!
# Running a script

* `State`: a shell with its parameters and variables, and what has been left so far;
* `State.expand`: the words that a word becomes;
* `State.call`: a simple command by its words;
* `run`: a command;
* `program`: the shell as a program.
-/

/-- The state of a shell: its name, parameters and variables, and what has been left so far; it is
    over when a command ends it. -/
structure State where
  name : String
  parameters : List String
  bindings : List (String × String) := []
  isOver : Bool := false
  done : Finished

/-- The status of the last command. -/
def State.status (s : State) : Nat := s.done.status.getD 1

/-! ### Words -/

/-- The value of a variable, if it is set. -/
def State.binding (s : State) (name : String) : Option String :=
  if name = "PWD" then some (Path.ofNames s.done.disk.directory) else s.bindings.lookup name

/-- The value of a parameter by its name, if it is set. -/
def State.parameter (s : State) (name : String) : Option String :=
  if name = "0" then some s.name
  else if name = "#" then some (toString s.parameters.length)
  else if name = "@" ∨ name = "*" then some (String.intercalate " " s.parameters)
  else if name = "?" then some (toString s.status)
  else if name = "$" then some "1"
  else if name.toList.all Text.isAsciiDigit then s.parameters[Program.argNumber name - 1]?
  else s.binding name

/-- Whether a character divides the words of a value. -/
def isDivider (c : Char) : Bool := c = ' ' || c = '\t' || c = '\n'

/-- Words that are finished, and the one that has begun. -/
abbrev Fields := List String × Option (List Char)

/-- The fields with more text in the last one. -/
def Fields.add (fields : Fields) (s : List Char) : Fields :=
  (fields.1, some (fields.2.getD [] ++ s))

/-- The fields with the last one finished. -/
def Fields.close (fields : Fields) : Fields :=
  match fields.2 with
  | some word => (fields.1 ++ [String.ofList word], none)
  | none => fields

/-- The fields with a text that is split at its blanks. -/
def Fields.split (fields : Fields) (s : List Char) : Fields :=
  s.foldl (fun fields c => if isDivider c then fields.close else fields.add [c]) fields

/-- The fields with several words, of which the first continues the last field. -/
def Fields.addAll (fields : Fields) : List String → Fields
  | [] => fields
  | [word] => fields.add word.toList
  | word :: words => Fields.addAll (fields.add word.toList).close words

/-- The words that one word becomes. -/
def State.expand (s : State) (word : Word) : List String :=
  if word = [.quotes, .parameter "@" true] then s.parameters
  else
    let value := fun (name : String) => ((s.parameter name).getD "").toList
    (word.foldl
      (fun (fields : Fields) piece =>
        match piece with
        | .char c => fields.add [c]
        | .quotes => fields.add []
        | .parameter "@" true => fields.addAll s.parameters
        | .parameter name true => fields.add (value name)
        | .parameter name false => fields.split (value name))
      ([], none)).close.1

/-- The text of a word that is not split. -/
def State.text (s : State) (word : Word) : String := String.intercalate " " (s.expand word)

/-! ### Simple commands -/

/-- The programs that a machine finds. -/
def program? : String → Option Program
  | "echo" => some Program.echo
  | "printf" => some Program.printf
  | "pwd" => some Program.pwd
  | "cat" => some Program.cat
  | "head" => some Program.head
  | "true" => some (Program.leaving 0)
  | "sleep" => some (Program.leaving 0)
  | "false" => some (Program.leaving 1)
  | _ => none

/-- The programs that a shell finds: it has its own way to print, and paths lead to the usual
    directories. -/
def command? (name : String) : Option Program :=
  match name with
  | "echo" => some Program.shellEcho
  | ":" => some (Program.leaving 0)
  | _ =>
    match Path.names name with
    | ["bin", program] => program? program
    | ["usr", "bin", program] => program? program
    | _ => program? name

/-- A line without its backslashes, each of which keeps the character behind it. -/
def unescaped : List Char → List Char
  | '\\' :: c :: s => c :: unescaped s
  | c :: s => c :: unescaped s
  | [] => []

/-- The fields of a line, one for each name; the last takes all that is left. -/
def lineFields : (names : List String) → List Char → List (String × String)
  | [], _ => []
  | [name], s =>
    let s := s.dropWhile isDivider
    [(name, String.ofList (s.reverse.dropWhile isDivider).reverse)]
  | name :: names, s =>
    let s := s.dropWhile isDivider
    (name, String.ofList (s.takeWhile (!isDivider ·))) ::
      lineFields names (s.dropWhile (!isDivider ·))

/-- The state with what a program has left. -/
def State.after (s : State) (left : Finished) : State :=
  { s with
    done := { left with
      output := s.done.output ++ left.output
      errors := s.done.errors ++ left.errors } }

/-- The state after a command of the shell itself that leaves a status. -/
def State.leave (s : State) (status : Nat) : State :=
  { s with done := { s.done with status := some status } }

/-- The state after a command that fails with a message. -/
def State.fail (s : State) (message : String) (status : Nat) : State :=
  { s with done := { s.done with
    errors := s.done.errors ++ textBytes s!"{s.name}: 1: {message}\n"
    status := some status } }

/-- The state after a program of the machine. -/
def State.start (s : State) (programs : String → Option Program) (name : String)
    (args : List String) : State :=
  match programs name with
  | some program => s.after (program args s.done.disk s.done.rest)
  | none => s.fail s!"{name}: not found" 127

/-- The state after a line has been read into variables. -/
def State.readLine (s : State) (isRaw : Bool) (names : List String) : State :=
  let line := (Text.decodeLossy (s.done.rest.takeWhile (· ≠ 10))).toList
  let behind := s.done.rest.dropWhile (· ≠ 10)
  { s with
    bindings := lineFields names (if isRaw then line else unescaped line) ++ s.bindings
    done := { s.done with
      rest := behind.drop 1
      status := some (if behind.isEmpty then 1 else 0) } }

/-- The state after a simple command, by its words. -/
def State.call (s : State) (programs : String → Option Program) (words : List String) : State :=
  match words with
  | [] => s.leave 0
  | ["exit"] => { s with isOver := true }
  | "exit" :: n :: _ =>
    match Text.readBounded 2147483647 n.toList with
    | some n => { s.leave (n % 256) with isOver := true }
    | none => { s.fail s!"exit: Illegal number: {n}" 2 with isOver := true }
  | "read" :: "-r" :: names => s.readLine true names
  | "read" :: names => s.readLine false names
  | "exec" :: name :: args => { s.start programs name args with isOver := true }
  | "kill" :: _ => { s with isOver := true, done := { s.done with status := none } }
  | name :: args => s.start programs name args

/-! ### Redirections -/

/-- Where a stream of a command leads. -/
inductive Destination where
  | output
  | errors
  | file (append : Bool) (name : String)
  deriving DecidableEq, Repr

/-- The destinations of the output and of the errors behind a redirection. -/
def redirect (target : Word → String) (streams : Destination × Destination) (r : Redirection) :
    Destination × Destination :=
  let new := match r.direction with
    | .copy => if target r.target = "2" then streams.2 else streams.1
    | .append => .file true (target r.target)
    | _ => .file false (target r.target)
  if r.direction = .input then streams
  else if r.stream = 2 then (streams.1, new)
  else if r.stream = 1 then (new, streams.2)
  else streams

/-- What has been left, with some bytes brought to a destination. -/
def deliver (bytes : List UInt8) (done : Finished) : Destination → Finished
  | .output => { done with output := done.output ++ bytes }
  | .errors => { done with errors := done.errors ++ bytes }
  | .file append name =>
    if name = "/dev/null" then done
    else
      let written := if append then done.disk.addContent name bytes
        else done.disk.setContent name bytes
      { done with disk := written.toOption.getD done.disk }

/-- The input of a command: the file that it is redirected from, or what is left of the input. -/
def inputOf (target : Word → String) (redirections : List Redirection) (done : Finished) :
    List UInt8 :=
  redirections.foldl
    (fun input r =>
      if r.direction = .input then ((done.disk.contentOf (target r.target)).toOption).getD []
      else input)
    done.rest

/-- The state after a command with redirections, which `perform` runs. -/
def State.redirected (s : State) (target : Word → String) (redirections : List Redirection)
    (perform : State → State) : State :=
  let input := inputOf target redirections s.done
  let isFed := redirections.any (·.direction = .input)
  let after := perform { s with done := { s.done with output := [], errors := [], rest := input } }
  let streams := redirections.foldl (redirect target) (.output, .errors)
  let kept := { after.done with
    output := s.done.output
    errors := s.done.errors
    rest := if isFed then s.done.rest else after.done.rest }
  { after with
    done := deliver after.done.errors (deliver after.done.output kept streams.1) streams.2 }

/-! ### Commands -/

/-- The state after a command. Both sides of a pipe run in shells of their own, of which only what
    they left counts. -/
def run : Command → State → State
  | .simple words redirections, s =>
    if s.isOver then s
    else s.redirected s.text redirections fun s => s.call command? (words.flatMap s.expand)
  | .piped first second, s =>
    if s.isOver then s
    else
      let left := (run first { s with done := { s.done with output := [] } }).done
      let right :=
        (run second { s with done := { left with output := [], rest := left.output } }).done
      { s with done := { right with
        output := s.done.output ++ right.output
        rest := left.rest } }
  | .chained first connector second, s =>
    let s := run first s
    match connector with
    | .always => run second s
    | .onSuccess => if s.status = 0 then run second s else s
    | .onFailure => if s.status = 0 then s else run second s

/-- What a script leaves. -/
def runScript (bindings : List (String × String)) (name : String) (parameters : List String)
    (script : String) (disk : Disk) (input : List UInt8) : Finished :=
  let start : State := { name, parameters, bindings, done := { disk, rest := input } }
  match readScript? script.toList with
  | some command => (run command start).done
  | none => (start.fail "Syntax error" 2).done

/-- The shell as a program, with the variables that it finds: the script is an argument, a file, or
    the input. -/
def program (bindings : List (String × String)) : Program := fun args disk input =>
  match args with
  | "-c" :: script :: name :: parameters => runScript bindings name parameters script disk input
  | ["-c", script] => runScript bindings "sh" [] script disk input
  | [] => runScript bindings "sh" [] (Text.decodeLossy input) disk []
  | file :: parameters =>
    match disk.contentOf file with
    | .ok content => runScript bindings file parameters (Text.decodeLossy content) disk input
    | .error _ => Program.failing s!"sh: 0: cannot open {file}: No such file" 2 [] disk input

end ServiceLang.Shell
