import Mathlib.Data.List.Forall2
import ServiceLang.Proofs.Text.Scan
import ServiceLang.Service.Head
import ServiceLang.Service.Layout

namespace ServiceLang

open Text

/-!
# The grammar of service descriptions

The language by concatenation and grouping, with no reader involved:

* `pieces args`: the parameters in the text between parentheses;
* `HeadLine content head`: a line at the left margin opens the declaration `head`;
* `MemberLine content signature`: a line inside a class opens a method;
* `Body inline below body`: the text behind a colon, then the lines below;
* `Grouped isHead lines groups`: consecutive groups, each a head and the lines it owns;
* `Declares head below item`: a head line and its indented lines make a declaration;
* `Describes lines items`: significant lines make declarations, in order.
-/

/-! ### Head lines -/

/-- A 16-bit number: ASCII digits, one or more, behind an optional plus sign. -/
def IsPort (s : List Char) (port : Nat) : Prop :=
  ∃ ds, (s = ds ∨ s = '+' :: ds) ∧ ds ≠ [] ∧ (∀ c ∈ ds, isAsciiDigit c) ∧
    port = readDigits ds ∧ port ≤ 65535

/-- A colon, perhaps behind blanks, and the text that follows it, trimmed. -/
def Opens (s inline : List Char) : Prop :=
  ∃ gap raw, Blank gap ∧ s = gap ++ ':' :: raw ∧ inline = trim raw

/-- The parameters in the text between parentheses: the pieces between its commas, trimmed,
    without the empty ones. -/
def pieces (args : List Char) : List (List Char) :=
  ((args.splitOn ',').map trim).filter (· ≠ [])

/-- A signature `name(args): inline`: the parameters are the pieces of `args`. -/
def IsSignature (s : List Char) (signature : Signature) : Prop :=
  ∃ gap args rest, s = signature.name ++ gap ++ '(' :: args ++ ')' :: rest ∧
    IsIdent signature.name ∧ Blank gap ∧ ')' ∉ args ∧
    signature.params = pieces args ∧
    Opens rest signature.inline

/-- The lines that open a declaration: `server <port>`, `endpoint <METHOD> "<path>": <inline>`,
    `func <name>(<args>): <inline>` and `class <name>:`, the last with no text behind its colon. -/
inductive HeadLine : List Char → Head → Prop where
  | server {content s : List Char} {port : Nat} (hkeyword : Spaced "server".toList s content)
      (hport : IsPort s port) : HeadLine content (.server port)
  | endpoint {content request path rest inline : List Char} {method : HttpMethod}
      (hkeyword : Spaced "endpoint".toList request content)
      (hrequest : Spaced method.name.toList ('"' :: path ++ '"' :: rest) request)
      (hpath : '"' ∉ path) (hopen : Opens rest inline) :
      HeadLine content (.endpoint method path inline)
  | function {content s : List Char} {signature : Signature}
      (hkeyword : Spaced "func".toList s content) (hsignature : IsSignature s signature) :
      HeadLine content (.function signature)
  | classDecl {content name rest : List Char}
      (hkeyword : Spaced "class".toList (name ++ rest) content) (hname : IsIdent name)
      (hopen : Opens rest []) : HeadLine content (.classDecl name)

/-- The lines that open a method: a signature behind `method` or `func`. -/
def MemberLine (content : List Char) (signature : Signature) : Prop :=
  ∃ keyword ∈ ["method", "func"], ∃ s, Spaced keyword.toList s content ∧ IsSignature s signature

/-! ### Bodies and groups -/

/-- A body: the text behind the colon when there is some, then the content of each line below. -/
inductive Body : (inline : List Char) → (below : List SourceLine) → List String → Prop where
  | below (below : List SourceLine) : Body [] below (below.map fun l => String.ofList l.content)
  | inline {inline : List Char} (hinline : inline ≠ []) (below : List SourceLine) :
      Body inline below (String.ofList inline :: below.map fun l => String.ofList l.content)

/-- Consecutive groups that make up a list: each is a head and the elements it owns, none of
    which is a head. -/
structure Grouped {α : Type} (isHead : α → Prop) (lines : List α) (groups : List (α × List α)) :
    Prop where
  lines_eq : lines = groups.flatMap fun group => group.1 :: group.2
  head : ∀ group ∈ groups, isHead group.1
  below : ∀ group ∈ groups, ∀ line ∈ group.2, ¬isHead line

/-- The function that a signature and the lines below it make; its body is not empty, and its
    line is the one of the signature. -/
structure MakesFunction (signature : Signature) (head : SourceLine) (below : List SourceLine)
    (decl : Function) : Prop where
  name : decl.name = String.ofList signature.name
  params : decl.params = signature.params.map String.ofList
  body : Body signature.inline below decl.body
  body_ne_nil : decl.body ≠ []
  line : decl.line = head.number

/-- The methods of a class, from the lines it owns. The first line fixes the indentation of the
    members: no line is indented less, the lines indented as much open the methods, and a deeper
    line belongs to the method above it. -/
inductive Methods : List SourceLine → List Function → Prop where
  | none : Methods [] []
  | some {first : SourceLine} {rest : List SourceLine}
      {groups : List (SourceLine × List SourceLine)} {methods : List Function}
      (hindent : ∀ line ∈ first :: rest, first.indent ≤ line.indent)
      (hgroups : Grouped (·.indent = first.indent) (first :: rest) groups)
      (hmethods : List.Forall₂ (fun group method => ∃ signature,
        MemberLine group.1.content signature ∧ MakesFunction signature group.1 group.2 method)
        groups methods) :
      Methods (first :: rest) methods

/-! ### Declarations -/

/-- The declaration that a head line and the indented lines below it make. -/
inductive Declares : (head : SourceLine) → (below : List SourceLine) → Item → Prop where
  | server {head : SourceLine} {port : Nat} (hhead : HeadLine head.content (.server port)) :
      Declares head [] (.server port head.number)
  | endpoint {head : SourceLine} {below : List SourceLine} {method : HttpMethod}
      {path inline : List Char} {body : List String}
      (hhead : HeadLine head.content (.endpoint method path inline))
      (hbody : Body inline below body) (hne : body ≠ []) :
      Declares head below (.endpoint ⟨method, String.ofList path, body, head.number⟩)
  | function {head : SourceLine} {below : List SourceLine} {signature : Signature}
      {decl : Function} (hhead : HeadLine head.content (.function signature))
      (hdecl : MakesFunction signature head below decl) : Declares head below (.function decl)
  | classDecl {head : SourceLine} {below : List SourceLine} {name : List Char}
      {methods : List Function} (hhead : HeadLine head.content (.classDecl name))
      (hmethods : Methods below methods) :
      Declares head below (.classDecl ⟨String.ofList name, methods, head.number⟩)

/-- The declarations that significant lines make: each opens at the left margin and owns the
    indented lines below it. -/
def Describes (lines : List SourceLine) (items : List Item) : Prop :=
  ∃ groups, Grouped (·.indent = 0) lines groups ∧
    List.Forall₂ (fun group item => Declares group.1 group.2 item) groups items

/-- Whether a line is neither blank nor a comment. -/
def isSignificant (line : List Char) : Bool := trim line ≠ [] ∧ (trim line).head? ≠ some '#'

/-- The significant lines of a text, with their numbers counted from 1, their indentation and
    their trimmed content. -/
def sourceLines (text : List Char) : List SourceLine :=
  (((lines text).zipIdx 1).filter fun line => isSignificant line.1).map fun line =>
    ⟨line.2, indentation line.1, trim line.1⟩

end ServiceLang
