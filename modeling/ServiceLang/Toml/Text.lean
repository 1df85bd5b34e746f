import ServiceLang.Json.Parse
import ServiceLang.Text.Space

namespace ServiceLang.TomlText

/-!
# The parts of a TOML text

* blanks, line ends and comments: `skipBlanks`, `lineEnd?`, `skipLineRest`, `skipGaps`;
* strings of the four kinds: `readString`;
* keys, dotted or not: `readKey`.
-/

/-! ### Blanks, line ends and comments -/

/-- A blank inside a line. -/
def isBlankChar (c : Char) : Bool := c == ' ' || c == '\t'

/-- Without the blanks at the start. -/
def skipBlanks (s : List Char) : List Char := s.dropWhile isBlankChar

/-- What follows a line end at the start; none when there is no line end. -/
def lineEnd? : List Char → Option (List Char)
  | '\n' :: s => some s
  | '\r' :: '\n' :: s => some s
  | _ => none

/-- The characters of strings and comments: all but control characters, and tabs. -/
def isTextChar (c : Char) : Bool := c == '\t' || (' ' ≤ c && c != '\x7f')

/-- Without the comment at the start. -/
def skipComment : List Char → List Char
  | '#' :: s => s.dropWhile isTextChar
  | s => s

/-- What follows a line whose rest is blank or a comment. -/
def skipLineRest (s : List Char) : Option (List Char) :=
  match skipComment (skipBlanks s) with
  | [] => some []
  | s => lineEnd? s

/-- Without the blanks, line ends and comments at the start, seen from inside a comment or
    outside. -/
def skipGapsFrom : (inComment : Bool) → List Char → List Char
  | _, [] => []
  | _, '\r' :: '\n' :: s => skipGapsFrom false s
  | inComment, c :: s =>
    if c = '\n' then skipGapsFrom false s
    else if inComment then if isTextChar c then skipGapsFrom true s else c :: s
    else if c = '#' then skipGapsFrom true s
    else if isBlankChar c then skipGapsFrom false s
    else c :: s

/-- Without the blanks, line ends and comments at the start. -/
def skipGaps (s : List Char) : List Char := skipGapsFrom false s

/-! ### Strings -/

/-- A kind of string: its quote, whether it knows escapes, and whether it spans lines. -/
structure StringKind where
  quote : Char
  escapes : Bool
  multiline : Bool

/-- Where a reader stands inside a string: between characters; behind a carriage return; behind a
    backslash, and behind blanks there; in the gap that an escaped line end leaves out, and behind
    a carriage return there; inside the digits of a code point, with their number still to come
    and their value; or behind quotes that may or may not end the string. -/
inductive StringState where
  | plain
  | carriageReturn
  | escape
  | escapedBlank
  | gap
  | gapReturn
  | code (missing value : Nat)
  | quotes (count : Nat)

/-- The character of an escape of one letter. -/
def shortEscape? (c : Char) : Option Char :=
  if c = 'b' then some '\x08'
  else if c = 't' then some '\t'
  else if c = 'n' then some '\n'
  else if c = 'f' then some '\x0c'
  else if c = 'r' then some '\r'
  else if c = '"' then some '"'
  else if c = '\\' then some '\\'
  else none

/-- The character of a code point, if it has one. -/
def charOfCode? (n : Nat) : Option Char :=
  if n.isValidChar then some (Char.ofNat n) else none

/-- What a character between others does: it ends the string, or it changes the state and adds
    characters. -/
inductive StringStep where
  | close
  | go (state : StringState) (added : List Char)

/-- A character between others. -/
def plainStep (kind : StringKind) (c : Char) : Option StringStep :=
  if c = kind.quote then
    some (if kind.multiline then .go (.quotes 1) [] else .close)
  else if c = '\\' && kind.escapes then some (.go .escape [])
  else if c = '\n' && kind.multiline then some (.go .plain ['\n'])
  else if c = '\r' && kind.multiline then some (.go .carriageReturn [])
  else if isTextChar c then some (.go .plain [c])
  else none

/-- A character in the gap that an escaped line end leaves out. -/
def gapStep (c : Char) : Option StringState :=
  if isBlankChar c || c = '\n' then some .gap
  else if c = '\r' then some .gapReturn
  else none

/-- A character behind a backslash. -/
def escapeStep (kind : StringKind) (c : Char) : Option StringStep :=
  match shortEscape? c with
  | some e => some (.go .plain [e])
  | none =>
    if c = 'u' then some (.go (.code 4 0) [])
    else if c = 'U' then some (.go (.code 8 0) [])
    else if !kind.multiline then none
    else if isBlankChar c then some (.go .escapedBlank [])
    else (gapStep c).map fun state => .go state []

/-- A hexadecimal digit of a code point. -/
def codeStep (missing value : Nat) (c : Char) : Option StringStep := do
  let digit ← Json.hexValue? c
  let value := value * 16 + digit
  if missing ≤ 1 then
    let char ← charOfCode? value
    return .go .plain [char]
  else return .go (.code (missing - 1) value) []

/-- A character in any state but behind quotes. -/
def stringStep (kind : StringKind) (state : StringState) (c : Char) : Option StringStep :=
  match state with
  | .plain => plainStep kind c
  | .carriageReturn => if c = '\n' then some (.go .plain ['\n']) else none
  | .escape => escapeStep kind c
  | .escapedBlank =>
    if isBlankChar c then some (.go .escapedBlank [])
    else (gapStep c).map fun state => .go state []
  | .gap =>
    match gapStep c with
    | some state => some (.go state [])
    | none => plainStep kind c
  | .gapReturn => if c = '\n' then some (.go .gap []) else none
  | .code missing value => codeStep missing value c
  | .quotes count => if count ≤ 2 then plainStep kind c else none

/-- The quotes at the end of a string that belong to its text. -/
def textQuotes (kind : StringKind) (count : Nat) : List Char := List.replicate count kind.quote

/-- The text of a string up to its closing quotes, and what follows them; `reversed` holds what
    has been read. Three quotes end a string that spans lines, and up to two more before them
    belong to its text. -/
def readQuoted (kind : StringKind) :
    StringState → (reversed : List Char) → List Char → Option (List Char × List Char)
  | .quotes count, reversed, [] =>
    if 3 ≤ count then some (reversed.reverse ++ textQuotes kind (count - 3), []) else none
  | _, _, [] => none
  | .quotes count, reversed, c :: s =>
    if c = kind.quote then
      if count = 4 then some (reversed.reverse ++ textQuotes kind 2, s)
      else readQuoted kind (.quotes (count + 1)) reversed s
    else if 3 ≤ count then
      some (reversed.reverse ++ textQuotes kind (count - 3), c :: s)
    else
      match plainStep kind c with
      | some (.go state added) =>
        readQuoted kind state (added.reverse ++ textQuotes kind count ++ reversed) s
      | _ => none
  | state, reversed, c :: s =>
    match stringStep kind state c with
    | some .close => some (reversed.reverse, s)
    | some (.go state added) => readQuoted kind state (added.reverse ++ reversed) s
    | none => none

/-- Without the line end at the start, if there is one. -/
def dropLineEnd (s : List Char) : List Char := (lineEnd? s).getD s

/-- The string at the start of a text, of any kind, and what follows it. A line end right behind
    the opening quotes of a string that spans lines does not count. -/
def readString : List Char → Option (List Char × List Char)
  | '"' :: '"' :: '"' :: s => readQuoted ⟨'"', true, true⟩ .plain [] (dropLineEnd s)
  | '"' :: s => readQuoted ⟨'"', true, false⟩ .plain [] s
  | '\'' :: '\'' :: '\'' :: s => readQuoted ⟨'\'', false, true⟩ .plain [] (dropLineEnd s)
  | '\'' :: s => readQuoted ⟨'\'', false, false⟩ .plain [] s
  | _ => none

/-! ### Keys -/

/-- A character of a bare key. -/
def isBareChar (c : Char) : Bool :=
  ('a' ≤ c && c ≤ 'z') || ('A' ≤ c && c ≤ 'Z') || ('0' ≤ c && c ≤ '9') || c == '-' || c == '_'

/-- One part of a key, bare or in quotes, and what follows it. -/
def readKeyPart : List Char → Option (List Char × List Char)
  | '"' :: s => readQuoted ⟨'"', true, false⟩ .plain [] s
  | '\'' :: s => readQuoted ⟨'\'', false, false⟩ .plain [] s
  | s =>
    match s.span isBareChar with
    | ([], _) => none
    | (part, rest) => some (part, rest)

/-- The parts of a key, at most `most`, with blanks around them and dots between. -/
def readKeyParts : (most : Nat) → List Char → Option (List String × List Char)
  | 0, _ => none
  | most + 1, s => do
    let (part, s) ← readKeyPart (skipBlanks s)
    match skipBlanks s with
    | '.' :: s =>
      let (parts, s) ← readKeyParts most s
      return (String.ofList part :: parts, s)
    | s => return ([String.ofList part], s)

/-- The number of parts of a key, and the depth of a value, stay below this. -/
def nestingLimit : Nat := 80

/-- A key at the start of a text, the blanks around it included, and what follows it. -/
def readKey (s : List Char) : Option (List String × List Char) := readKeyParts (nestingLimit - 1) s

end ServiceLang.TomlText
