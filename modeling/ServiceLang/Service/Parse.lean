import ServiceLang.Service.Head
import ServiceLang.Service.Layout

namespace ServiceLang

/-!
# Reading a description

Blocks are delimited by indentation: a declaration starts at the left margin and owns the
indented lines below it. Inside a class the first indented line fixes the indentation of its
members, and deeper lines belong to the member above them. The lines are read in one pass, which
stops at the first error.

* `Pending`: a declaration whose block is being read;
* `Pending.take`, `Pending.finish`: one more line of the block, and its end;
* `Draft.take`, `Draft.finish`: one more line of the text, and its end;
* `Service.parse`: a whole text.
-/

/-- An outcome whose fault is placed on a line. -/
def atLine {α : Type} (line : Nat) : Except Fault α → Except SyntaxError α
  | .ok a => .ok a
  | .error fault => .error ⟨line, fault⟩

/-- A body before the lines of its block: the text behind the colon, when there is some. -/
def inlineBody (inline : List Char) : List String :=
  if inline = [] then [] else [String.ofList inline]

/-- The function made of a signature, before the lines of its block. -/
def Function.opened (signature : Signature) (line : Nat) : Function where
  name := String.ofList signature.name
  params := signature.params.map String.ofList
  body := inlineBody signature.inline
  line := line

/-- The functions with one more line in the body of the last one. -/
def addToLast (text : String) : List Function → List Function
  | [] => []
  | [last] => [{ last with body := last.body ++ [text] }]
  | first :: rest => first :: addToLast text rest

/-- A declaration whose block is being read. A class knows the indentation of its members once it
    has one. -/
inductive Pending where
  | endpoint (decl : Endpoint)
  | function (decl : Function)
  | classDecl (decl : ClassDecl) (memberIndent : Option Nat)

namespace Pending

/-- Takes an indented line into the block. In a class it is a member, belongs to the last member
    when it is deeper, and belongs nowhere when it is indented less. -/
def take (pending : Pending) (line : SourceLine) : Except SyntaxError Pending :=
  match pending with
  | endpoint decl => .ok (endpoint { decl with body := decl.body ++ [String.ofList line.content] })
  | function decl => .ok (function { decl with body := decl.body ++ [String.ofList line.content] })
  | classDecl decl memberIndent =>
    let indent := memberIndent.getD line.indent
    if line.indent = indent then do
      let signature ← atLine line.number (readMember line.content)
      let methods := decl.methods ++ [.opened signature line.number]
      return classDecl { decl with methods } (some indent)
    else if indent < line.indent then
      let methods := addToLast (String.ofList line.content) decl.methods
      .ok (classDecl { decl with methods } (some indent))
    else .error ⟨line.number, .unexpectedIndent⟩

/-- The declaration at the end of its block. Bodies must not be empty. -/
def finish : Pending → Except SyntaxError Item
  | endpoint decl =>
    if decl.body = [] then .error ⟨decl.line, .missingBody .endpoint⟩ else .ok (.endpoint decl)
  | function decl =>
    if decl.body = [] then .error ⟨decl.line, .missingBody .function⟩ else .ok (.function decl)
  | classDecl decl _ =>
    match decl.methods.find? (·.body = []) with
    | some method => .error ⟨method.line, .missingBody .method⟩
    | none => .ok (.classDecl decl)

end Pending

/-- What has been read so far: complete declarations, and one whose block may go on. -/
structure Draft where
  items : List Item := []
  pending : Option Pending := none

namespace Draft

/-- The declarations, the last one at the end of its block. -/
def finish (draft : Draft) : Except SyntaxError (List Item) :=
  match draft.pending with
  | none => .ok draft.items
  | some pending => do return draft.items ++ [← pending.finish]

/-- Begins a declaration behind others. A server has no block. -/
def declare (items : List Item) (line : SourceLine) : Except SyntaxError Draft := do
  match ← atLine line.number (readHead line.content) with
  | .server port => return { items := items ++ [.server port line.number] }
  | .endpoint method path inline =>
    let decl := ⟨method, String.ofList path, inlineBody inline, line.number⟩
    return { items, pending := some (.endpoint decl) }
  | .function signature =>
    return { items, pending := some (.function (.opened signature line.number)) }
  | .classDecl name =>
    return { items, pending := some (.classDecl ⟨String.ofList name, [], line.number⟩ none) }

/-- Takes a significant line. -/
def take (draft : Draft) (line : SourceLine) : Except SyntaxError Draft :=
  if line.indent = 0 then do declare (← draft.finish) line
  else
    match draft.pending with
    | none => .error ⟨line.number, .unexpectedIndent⟩
    | some pending => do return { draft with pending := some (← pending.take line) }

end Draft

/-- Reads a text as a service description. -/
def Service.parse (text : String) : Except SyntaxError Service := do
  let draft ← (significantLines text.toList).foldlM Draft.take {}
  return ⟨← draft.finish⟩

end ServiceLang
