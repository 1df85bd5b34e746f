import ServiceLang.Service.Basic
import ServiceLang.Service.SyntaxError
import ServiceLang.Text.Number
import ServiceLang.Text.Space
import ServiceLang.Text.Word

namespace ServiceLang

/-!
# Heads of declarations

The first line of a declaration, read without its body:

* `readHead`: the declaration that a line at the left margin opens;
* `readMember`: the method that a line inside a class opens;
* `readSignature`: a name, its parameters and the text behind the colon.
-/

open Text

/-- A name with its parameters and the text that follows the colon, trimmed. -/
structure Signature where
  name : List Char
  params : List (List Char)
  inline : List Char
  deriving DecidableEq, Repr

/-- What a line at the left margin declares, with the text that follows the colon. -/
inductive Head where
  | server (port : Nat)
  | endpoint (method : HttpMethod) (path inline : List Char)
  | function (signature : Signature)
  | classDecl (name : List Char)
  deriving DecidableEq, Repr

/-- The part before the first `c` and the part after it. -/
def splitAtChar? (c : Char) (s : List Char) : Option (List Char × List Char) :=
  match s.dropWhile (· != c) with
  | [] => none
  | _ :: rest => some (s.takeWhile (· != c), rest)

/-- The pieces of a text between its commas. -/
def splitCommas : List Char → List (List Char)
  | [] => [[]]
  | c :: s =>
    if c = ',' then [] :: splitCommas s
    else match splitCommas s with
      | [] => [[c]]
      | piece :: pieces => (c :: piece) :: pieces

/-- The parameters of a parameter list: its pieces, trimmed, without the empty ones. -/
def readParams (s : List Char) : List (List Char) :=
  ((splitCommas s).map trim).filter (· ≠ [])

/-- The word that a text starts with, as an error names it. -/
def tokenName (s : List Char) : String :=
  match firstWord? s with
  | some word => String.ofList word
  | none => "end of line"

/-- The trimmed text behind the colon that opens a body. -/
def readOpener (construct : Construct) (s : List Char) : Except Fault (List Char) :=
  match trimStart s with
  | ':' :: rest => .ok (trim rest)
  | _ => .error (.missingColon construct)

/-- A signature, `name(params): inline`, that follows `keyword`. -/
def readSignature (keyword : String) (s : List Char) : Except Fault Signature :=
  match takeIdent? s with
  | none => .error (.expectedIdentifier keyword)
  | some (name, after) =>
    match trimStart after with
    | '(' :: inside =>
      match splitAtChar? ')' inside with
      | none => .error .unclosedParams
      | some (params, rest) => do
        let inline ← readOpener .function rest
        return ⟨name, readParams params, inline⟩
    | _ => .error (.unexpectedToken (tokenName after))

/-- The rest of a server declaration: its port. -/
def readServer (s : List Char) : Except Fault Head :=
  match readBounded maxPort s with
  | some port => .ok (.server port)
  | none => .error (.invalidPort (String.ofList s))

/-- The rest of an endpoint declaration, `METHOD "path": inline`. -/
def readEndpoint (s : List Char) : Except Fault Head :=
  let (name, after) := splitAtSpace s
  match HttpMethod.ofName? (String.ofList name) with
  | none => .error (.unknownMethod (String.ofList name))
  | some method =>
    match trimStart after with
    | '"' :: quoted =>
      match splitAtChar? '"' quoted with
      | none => .error .unterminatedString
      | some (path, rest) => do
        let inline ← readOpener .endpoint rest
        return .endpoint method path inline
    | _ => .error .expectedPath

/-- The rest of a class declaration, `Name:`. -/
def readClass (s : List Char) : Except Fault Head :=
  match takeIdent? s with
  | none => .error (.expectedIdentifier "class")
  | some (name, after) => do
    match ← readOpener .classDecl after with
    | [] => return .classDecl name
    | trailing => throw (.unexpectedToken (tokenName trailing))

/-- The declaration that a trimmed line opens. -/
def readHead (content : List Char) : Except Fault Head :=
  let (keyword, after) := splitAtSpace content
  let rest := trim after
  if keyword = "server".toList then readServer rest
  else if keyword = "endpoint".toList then readEndpoint rest
  else if keyword = "func".toList then .function <$> readSignature "func" rest
  else if keyword = "class".toList then readClass rest
  else .error (.unexpectedToken (String.ofList keyword))

/-- The method that a trimmed line inside a class opens. -/
def readMember (content : List Char) : Except Fault Signature :=
  let (keyword, after) := splitAtSpace content
  if keyword = "method".toList ∨ keyword = "func".toList then
    readSignature (String.ofList keyword) (trim after)
  else .error (.unexpectedToken (String.ofList keyword))

end ServiceLang
