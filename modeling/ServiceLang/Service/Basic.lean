namespace ServiceLang

/-!
# Service descriptions

A service description is a list of declarations in source order: the port it listens on, its
endpoints, its functions and its classes. Bodies are kept as their trimmed source lines. Lines
are counted from 1.
-/

/-- The HTTP methods that an endpoint may answer. -/
inductive HttpMethod where
  | get
  | post
  | put
  | patch
  | delete
  deriving DecidableEq, Repr

/-- The method's name, in capitals. -/
def HttpMethod.name : HttpMethod → String
  | .get => "GET"
  | .post => "POST"
  | .put => "PUT"
  | .patch => "PATCH"
  | .delete => "DELETE"

/-- The method with the given name; names are case-sensitive. -/
def HttpMethod.ofName? (name : String) : Option HttpMethod :=
  [HttpMethod.get, .post, .put, .patch, .delete].find? (·.name == name)

/-- An endpoint: requests for `path` with `method` run `body`. -/
structure Endpoint where
  method : HttpMethod
  path : String
  body : List String
  line : Nat
  deriving DecidableEq, Repr

/-- A function, or a method of a class. -/
structure Function where
  name : String
  params : List String
  body : List String
  line : Nat
  deriving DecidableEq, Repr

/-- A class with its methods in source order. -/
structure ClassDecl where
  name : String
  methods : List Function
  line : Nat
  deriving DecidableEq, Repr

/-- A declaration. -/
inductive Item where
  | server (port line : Nat)
  | endpoint (decl : Endpoint)
  | function (decl : Function)
  | classDecl (decl : ClassDecl)
  deriving DecidableEq, Repr

namespace Item

/-- The line of a declaration. -/
def line : Item → Nat
  | server _ line => line
  | endpoint decl => decl.line
  | function decl => decl.line
  | classDecl decl => decl.line

/-- The methods of a declaration. -/
def methods : Item → List Function
  | classDecl decl => decl.methods
  | _ => []

/-- The method and path of an endpoint. -/
def route? : Item → Option (HttpMethod × String)
  | endpoint decl => some (decl.method, decl.path)
  | _ => none

/-- The name of a function. -/
def functionName? : Item → Option String
  | function decl => some decl.name
  | _ => none

/-- The name of a class. -/
def className? : Item → Option String
  | classDecl decl => some decl.name
  | _ => none

end Item

/-- A service description: its declarations in source order. -/
structure Service where
  items : List Item
  deriving DecidableEq, Repr

/-- The declared ports, each with its line, in source order. -/
def Service.servers (service : Service) : List (Nat × Nat) :=
  service.items.filterMap fun
    | .server port line => some (port, line)
    | _ => none

end ServiceLang
