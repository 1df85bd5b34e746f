import ServiceLang.Text.Number
import ServiceLang.Text.Word

namespace ServiceLang.Shell

/-!
# The words of a script

* `Piece`, `Token`: a part of a word, and a word or operator;
* `scan`: one step of the reader for each character;
* `tokens`: the words and operators of a script.
-/

/-- A part of a word: a character, the beginning of a quoted part, or a parameter. What stands in
    quotes is not split at blanks. -/
inductive Piece where
  | char (c : Char)
  | quotes
  | parameter (name : String) (inQuotes : Bool)
  deriving DecidableEq, Repr

/-- A word in its parts. -/
abbrev Word := List Piece

/-- What a redirection does to a stream. -/
inductive Direction where
  | input
  | output
  | append
  | copy
  deriving DecidableEq, Repr

/-- A word, an operator, or the beginning of a redirection, with the number of its stream. -/
inductive Token where
  | word (pieces : Word)
  | operator (text : String)
  | redirect (stream : Nat) (direction : Direction)
  deriving DecidableEq, Repr

/-- Where a reader stands: outside quotes, inside single or double quotes, in a comment, or in the
    name of a parameter, plain or in braces, which is inside double quotes or outside. -/
inductive Quoting where
  | bare
  | single
  | double
  | comment
  | name (inQuotes : Bool)
  | braced (inQuotes : Bool)
  deriving DecidableEq, Repr

/-- The tokens with the word that ends here. -/
def closeWord (word : Option Word) (tokens : List Token) : List Token :=
  match word with
  | some reversed => .word reversed.reverse :: tokens
  | none => tokens

/-- A word with one more part. -/
def extend (word : Option Word) (piece : Piece) : Option Word := some (piece :: word.getD [])

/-- A parameter of one character. -/
def isParameterChar (c : Char) : Bool := Text.isAsciiDigit c || "@*#?$".toList.contains c

/-- A word with one more character in the name of its last part. -/
def extendName (word : Option Word) (c : Char) : Option Word :=
  match word with
  | some (.parameter name inQuotes :: reversed) =>
    some (.parameter (name.push c) inQuotes :: reversed)
  | _ => word

/-- Where a reader stands behind the name of a parameter. -/
def Quoting.around (inQuotes : Bool) : Quoting := if inQuotes then .double else .bare

/-- Where a reader stands behind a character of a name, by what follows. -/
def Quoting.afterName (inQuotes : Bool) (s : List Char) : Quoting :=
  if (s.head?.map Text.isIdentChar).getD false then .name inQuotes else .around inQuotes

/-- Where a reader stands behind a dollar sign and one more character, and the parameter that they
    begin, if they begin one. -/
def dollarPart? (inQuotes : Bool) (d : Char) (s : List Char) : Option (Quoting × Piece) :=
  if isParameterChar d then some (.around inQuotes, .parameter (String.singleton d) inQuotes)
  else if Text.isIdentStart d then
    some (.afterName inQuotes s, .parameter (String.singleton d) inQuotes)
  else if d = '\x7b' then some (.braced inQuotes, .parameter "" inQuotes)
  else none

/-- The stream that an arrow redirects: a digit directly before it names one. -/
def streamOf (word : Option Word) (usual : Nat) : Nat :=
  match word with
  | some [.char d] => if Text.isAsciiDigit d then Text.digitValue d else usual
  | _ => usual

/-- The tokens with a redirection. -/
def openRedirect (word : Option Word) (usual : Nat) (direction : Direction) (tokens : List Token) :
    List Token :=
  match word with
  | some [.char d] =>
    .redirect (streamOf word usual) direction ::
      if Text.isAsciiDigit d then tokens else closeWord word tokens
  | _ => .redirect usual direction :: closeWord word tokens

/-- The tokens of a script in reverse; `word` holds the parts of the word that has begun, in
    reverse, and `tokens` what came before. -/
def scan : Quoting → (word : Option Word) → (tokens : List Token) → List Char → List Token
  | _, word, tokens, [] => closeWord word tokens
  | .comment, word, tokens, c :: s =>
    if c = '\n' then scan .bare none (.operator ";" :: tokens) s else scan .comment word tokens s
  | .single, word, tokens, c :: s =>
    if c = '\'' then scan .bare word tokens s else scan .single (extend word (.char c)) tokens s
  | .name inQuotes, word, tokens, c :: s =>
    scan (.afterName inQuotes s) (extendName word c) tokens s
  | .braced inQuotes, word, tokens, c :: s =>
    if c = '\x7d' then scan (.around inQuotes) word tokens s
    else scan (.braced inQuotes) (extendName word c) tokens s
  | .double, word, tokens, '$' :: d :: s =>
    match dollarPart? true d s with
    | some (quoting, piece) => scan quoting (extend word piece) tokens s
    | none => scan .double (extend word (.char '$')) tokens (d :: s)
  | .double, word, tokens, '\\' :: d :: s =>
    if "$`\"\\".toList.contains d then scan .double (extend word (.char d)) tokens s
    else scan .double (extend word (.char '\\')) tokens (d :: s)
  | .double, word, tokens, c :: s =>
    if c = '"' then scan .bare word tokens s else scan .double (extend word (.char c)) tokens s
  | .bare, word, tokens, '&' :: '&' :: s =>
    scan .bare none (.operator "&&" :: closeWord word tokens) s
  | .bare, word, tokens, '|' :: '|' :: s =>
    scan .bare none (.operator "||" :: closeWord word tokens) s
  | .bare, word, tokens, '>' :: '&' :: s => scan .bare none (openRedirect word 1 .copy tokens) s
  | .bare, word, tokens, '>' :: '>' :: s => scan .bare none (openRedirect word 1 .append tokens) s
  | .bare, word, tokens, '$' :: d :: s =>
    match dollarPart? false d s with
    | some (quoting, piece) => scan quoting (extend word piece) tokens s
    | none => scan .bare (extend word (.char '$')) tokens (d :: s)
  | .bare, word, tokens, '\\' :: d :: s =>
    if d = '\n' then scan .bare word tokens s
    else scan .bare (extend (extend word .quotes) (.char d)) tokens s
  | .bare, word, tokens, c :: s =>
    if c = '\'' then scan .single (extend word .quotes) tokens s
    else if c = '"' then scan .double (extend word .quotes) tokens s
    else if c = ' ' || c = '\t' then scan .bare none (closeWord word tokens) s
    else if c = '\n' || c = '&' then scan .bare none (.operator ";" :: closeWord word tokens) s
    else if c = '#' && word.isNone then scan .comment none tokens s
    else if c = '>' then scan .bare none (openRedirect word 1 .output tokens) s
    else if c = '<' then scan .bare none (openRedirect word 0 .input tokens) s
    else if c = ';' || c = '|' || c = '(' || c = ')' then
      scan .bare none (.operator (String.singleton c) :: closeWord word tokens) s
    else scan .bare (extend word (.char c)) tokens s

/-- The words and operators of a script. -/
def tokens (script : List Char) : List Token := (scan .bare none [] script).reverse

end ServiceLang.Shell
