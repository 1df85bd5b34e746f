import ServiceLang.Files.Disk
import ServiceLang.Text.Number
import ServiceLang.Text.Utf8

namespace ServiceLang

/-!
# Programs

A program takes its arguments, a disk with its working directory, and its input, and leaves its
output, its error output, a status and the disk.

* `Program`, `Finished`: a program, and what it leaves;
* `Program.echo`, `Program.printf`, `Program.pwd`, `Program.cat`, `Program.head`: small programs.
-/

/-- What a program leaves. Without a status it was stopped from outside; `rest` is the input that
    it has not taken. -/
structure Finished where
  output : List UInt8 := []
  errors : List UInt8 := []
  status : Option Nat := some 0
  disk : Disk
  rest : List UInt8 := []
  deriving Repr

/-- A program: it takes arguments, a disk and its input. -/
abbrev Program := (args : List String) → Disk → (input : List UInt8) → Finished

/-- The bytes of a text. -/
def textBytes (s : String) : List UInt8 := Text.encodeUtf8 s.toList

namespace Program

/-- A program that only prints. -/
def printing (print : Disk → List String → List UInt8) : Program := fun args disk input =>
  { output := print disk args, disk, rest := input }

/-- A program that does nothing but leave a status. -/
def leaving (status : Nat) : Program := fun _ disk input =>
  { status := some status, disk, rest := input }

/-- A program that fails with a message. -/
def failing (message : String) (status : Nat) : Program := fun _ disk input =>
  { errors := textBytes (message ++ "\n"), status := some status, disk, rest := input }

/-- A number of a program's argument. -/
def argNumber (s : String) : Nat := (Text.readBounded Text.maxWord64 s.toList).getD 0

/-! ### Printing texts -/

/-- The value of octal digits as a byte. -/
def octalByte (digits : List Char) : UInt8 :=
  (digits.foldl (fun n c => n * 8 + Text.digitValue c) 0).toUInt8

/-- The octal digits that a text starts with, three at most. -/
def octalDigits (s : List Char) : List Char := (s.take 3).takeWhile fun c => '0' ≤ c && c ≤ '7'

/-- The bytes of an escape whose text follows a backslash, and the number of characters that it
    takes. A byte in octal digits has a zero in front of them if `isMarked`. -/
def escape (isMarked : Bool) (s : List Char) : List UInt8 × Nat :=
  match s with
  | 'a' :: _ => ([7], 1)
  | 'b' :: _ => ([8], 1)
  | 't' :: _ => ([9], 1)
  | 'n' :: _ => ([10], 1)
  | 'v' :: _ => ([11], 1)
  | 'f' :: _ => ([12], 1)
  | 'r' :: _ => ([13], 1)
  | '\\' :: _ => ([92], 1)
  | _ =>
    let mark := if isMarked && s.head? = some '0' then 1 else 0
    let digits := if isMarked && mark = 0 then [] else octalDigits (s.drop mark)
    if mark = 0 && digits.isEmpty then ([92], 0) else ([octalByte digits], mark + digits.length)

/-- The bytes of a text with its escapes carried out. -/
def escaped (s : List Char) : List UInt8 :=
  match s with
  | [] => []
  | '\\' :: s => (escape true s).1 ++ escaped (s.drop (escape true s).2)
  | c :: s => Text.encodeUtf8 [c] ++ escaped s
termination_by s.length
decreasing_by all_goals simp; try omega

/-- What is printed for words: they have blanks between them, and a line feed at the end unless it
    is left out. -/
def printed (hasEscapes endsLine : Bool) (words : List String) : List UInt8 :=
  let text := String.intercalate " " words
  (if hasEscapes then escaped text.toList else textBytes text) ++ if endsLine then [10] else []

/-- Whether an argument is a group of the options `n`, `e` and `E`. -/
def isEchoOption (arg : String) : Bool :=
  match arg.toList with
  | '-' :: c :: options => (c :: options).all "neE".toList.contains
  | _ => false

/-- Prints its arguments; `-n` leaves out the line feed, `-e` carries out escapes. -/
def echo : Program := printing fun _ args =>
  let options := (args.takeWhile isEchoOption).flatMap fun arg => arg.toList.drop 1
  let hasEscapes := (options.filter (· != 'n')).getLast? == some 'e'
  printed hasEscapes (!options.contains 'n') (args.dropWhile isEchoOption)

/-- Prints its arguments with their escapes carried out; `-n` leaves out the line feed. -/
def shellEcho : Program := printing fun _ args =>
  match args with
  | "-n" :: rest => printed true false rest
  | _ => printed true true args

/-- The bytes of a format with its arguments put in, each `%s` and `%d` taking one, and the
    arguments that are left. -/
def formatOnce (s : List Char) (args : List String) : List UInt8 × List String :=
  match s with
  | [] => ([], args)
  | '\\' :: s => behind (escape false s).1 (formatOnce (s.drop (escape false s).2) args)
  | '%' :: '%' :: s => behind [37] (formatOnce s args)
  | '%' :: 's' :: s => behind (textBytes (args.headD "")) (formatOnce s args.tail)
  | '%' :: 'd' :: s => behind (textBytes (args.headD "0")) (formatOnce s args.tail)
  | c :: s => behind (Text.encodeUtf8 [c]) (formatOnce s args)
termination_by s.length
decreasing_by all_goals simp; try omega
where
  /-- The same with some bytes in front. -/
  behind (bytes : List UInt8) (rest : List UInt8 × List String) : List UInt8 × List String :=
    (bytes ++ rest.1, rest.2)

/-- The bytes of a format that is used again, `most` times at most, while it takes arguments and
    some are left. -/
def formatAll (s : List Char) : (most : Nat) → (args : List String) → List UInt8
  | 0, args => (formatOnce s args).1
  | most + 1, args =>
    let (bytes, rest) := formatOnce s args
    if rest.isEmpty || rest.length = args.length then bytes else bytes ++ formatAll s most rest

/-- Prints a format with its arguments put in. -/
def printf : Program := printing fun _ args =>
  formatAll (args.headD "").toList args.length args.tail

/-- Prints the working directory. -/
def pwd : Program := printing fun disk _ => textBytes (Path.ofNames disk.directory ++ "\n")

/-! ### Files and input -/

/-- The reason of an error without its number. -/
def reason (e : OsError) : String := (e.message.splitOn " (os error").headD ""

/-- Prints a file, or the input for `-`. -/
def catFile (done : Finished) (name : String) : Finished :=
  if name = "-" then { done with output := done.output ++ done.rest, rest := [] }
  else
    match done.disk.contentOf name with
    | .ok content => { done with output := done.output ++ content }
    | .error e =>
      { done with
        errors := done.errors ++ textBytes s!"cat: {name}: {reason e}\n"
        status := some 1 }

/-- Prints files one after another, or its input. -/
def cat : Program := fun args disk input =>
  let args := if args.isEmpty then ["-"] else args
  args.foldl catFile { disk, rest := input }

/-- The first lines of some bytes. -/
def firstLines : (count : Nat) → List UInt8 → List UInt8
  | 0, _ => []
  | _, [] => []
  | count + 1, b :: rest => b :: firstLines (if b = 10 then count else count + 1) rest

/-- A part of the input: a number of bytes or of lines. -/
inductive Amount where
  | bytes (count : Nat)
  | lines (count : Nat)
  deriving DecidableEq, Repr

/-- The amount that options ask for, ten lines without any, and the arguments behind them. -/
def readAmount : List String → Amount × List String
  | [] => (.lines 10, [])
  | "-c" :: n :: files => (.bytes (argNumber n), files)
  | "-n" :: n :: files => (.lines (argNumber n), files)
  | arg :: files =>
    match arg.toList with
    | '-' :: 'c' :: n => (.bytes (argNumber (String.ofList n)), files)
    | '-' :: 'n' :: n => (.lines (argNumber (String.ofList n)), files)
    | '-' :: n => (.lines (argNumber (String.ofList n)), files)
    | _ => (.lines 10, arg :: files)

/-- The beginning of some bytes. -/
def Amount.first : Amount → List UInt8 → List UInt8
  | .bytes count => (·.take count)
  | .lines count => firstLines count

/-- Prints the beginning of a file or of its input. -/
def head : Program := fun args disk input =>
  match readAmount args with
  | (amount, []) =>
    let rest := match amount with
      | .bytes count => input.drop count
      | .lines _ => []
    { output := amount.first input, disk, rest }
  | (amount, file :: _) =>
    match disk.contentOf file with
    | .ok content => { output := amount.first content, disk, rest := input }
    | .error e => failing s!"head: cannot open '{file}' for reading: {reason e}" 1 [] disk input

end Program

end ServiceLang
