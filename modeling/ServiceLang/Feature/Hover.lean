import ServiceLang.Feature.Cursor
import ServiceLang.Outline.Index
import ServiceLang.Outline.Scan
import ServiceLang.Protocol.Hover

namespace ServiceLang

/-!
# What hovering over a word shows

Keywords have a fixed description. Other words are looked up among the declared names, in this
order: functions, classes, methods, and the paths of endpoints.
-/

/-- A line of the source as the user counts them, from 1. -/
def shownLine (line : Nat) : String := s!"line {line + 1}"

/-- The description of a keyword. -/
def keywordCard? : String → Option String
  | "server" => some
    "**server** `<port>`\n\nDeclares the port the HTTP server listens on.\n\n```webdsl\nserver 8080\n```"
  | "endpoint" => some
    "**endpoint** `<METHOD> \"<path>\": <body>`\n\nDeclares a route. The body is an expression or an indented block.\n\n```webdsl\nendpoint GET \"/users\":\n    json \x7b \"users\": [] \x7d\n```"
  | "func" => some
    "**func** `<name>(<args>): <expr>`\n\nDeclares a function callable from endpoint bodies.\n\n```webdsl\nfunc add(a, b): a + b\n```"
  | "class" => some
    "**class** `<Name>:`\n\nDeclares a class. Methods are indented below it.\n\n```webdsl\nclass Greeter:\n    method hello(name): \"Hello \" + name\n```"
  | "GET" => some
    "**GET** HTTP method\n\nRetrieves a resource without side effects.\n\n```webdsl\nendpoint GET \"/users\": json \x7b \"users\": [] \x7d\n```"
  | "POST" => some
    "**POST** HTTP method\n\nSubmits data to create or process a resource.\n\n```webdsl\nendpoint POST \"/users\": json \x7b \"created\": true \x7d\n```"
  | _ => none

/-- What the keyword `server` shows besides: the port that takes effect. -/
def activePort (outline : Outline) : String :=
  match outline.server with
  | some entry => s!"\n\nActive port: `{entry.port}` ({shownLine entry.line})"
  | none => ""

/-- The description of a function. -/
def functionCard (f : FunctionEntry) : String :=
  s!"**func** `{f.name}({f.args})`\n\nDeclared on {shownLine f.line}."

/-- The description of a class, with its methods. -/
def classCard (c : ClassEntry) : String :=
  s!"**class** `{c.name}`\n\nDeclared on {shownLine c.line}." ++
    match c.methods with
    | [] => "\n\nNo methods."
    | methods => methods.foldl (fun text m => text ++ s!"\n- `{m.name}({m.args})`") "\n\nMethods:"

/-- The description of a method name, with all its declarations. -/
def methodCard (name : String) (sites : List MethodSite) : String :=
  sites.foldl
    (fun text site => text ++
      s!"\n- `{site.className}.{site.method.name}` ({shownLine site.method.line})")
    s!"**method** `{name}`\n"

/-- The description of a path, with all its endpoints. -/
def endpointCard (path : String) (entries : List EndpointEntry) : String :=
  entries.foldl (fun text e => text ++ s!"\n- `{e.method}` ({shownLine e.line})")
    s!"**endpoint** `{path}`\n"

/-- The description of a declared name. -/
def Index.card? (index : Index) (word : String) : Option String :=
  match index.function? word, index.class? word, index.methodSites word, index.endpointsAt word with
  | some f, _, _, _ => some (functionCard f)
  | none, some c, _, _ => some (classCard c)
  | none, none, site :: sites, _ => some (methodCard word (site :: sites))
  | none, none, [], e :: entries => some (endpointCard word (e :: entries))
  | none, none, [], [] => none

/-- The description of a word. -/
def Outline.card? (outline : Outline) (word : String) : Option String :=
  match keywordCard? word with
  | some card => some (if word = "server" then card ++ activePort outline else card)
  | none => (Index.ofOutline outline).card? word

/-- What hovering over a place shows. -/
def hoverAt (text : String) (p : Position) : Option Hover := do
  let word ← wordUnder text.toList p.line.toNat p.character.toNat
  let card ← (Outline.ofText text).card? (String.ofList word)
  return ⟨.markdown card, none⟩

end ServiceLang
