import ServiceLang.Service.Basic

namespace ServiceLang

/-!
# Checks on a description

Errors: an endpoint whose method and path an earlier endpoint has. Warnings: no server
declaration or several, a function or class whose name an earlier one has, a class without
methods. Each finding about a repetition names the nearest earlier line.

* `LastSeen`, `Seen`: the lines of the keys that declarations have had so far;
* `itemErrors`, `itemWarnings`, `serverWarnings`: what is found about a declaration, and about the
  servers;
* `Service.check`: the pass over all declarations.
-/

/-- A finding; its kind is `error` for an error, and any other kind is a warning. -/
structure Finding where
  message : String
  kind : String
  deriving DecidableEq, Repr

/-- A finding of kind `error`. -/
def Finding.error (message : String) : Finding := ⟨message, "error"⟩

/-- A finding of kind `warning`. -/
def Finding.warning (message : String) : Finding := ⟨message, "warning"⟩

/-- All findings about one description. -/
structure Report where
  errors : List Finding
  warnings : List Finding
  deriving DecidableEq, Repr

/-- The line on which each key was seen last. -/
def LastSeen (κ : Type) : Type := κ → Option Nat

/-- Records the key of a declaration, if it has one, over an earlier line for the same key. -/
def LastSeen.note {κ : Type} [DecidableEq κ] (seen : LastSeen κ) (key : Item → Option κ)
    (item : Item) : LastSeen κ := fun k =>
  if key item = some k then some item.line else seen k

/-- What the declarations so far are called. -/
structure Seen where
  routes : LastSeen (HttpMethod × String) := fun _ => none
  functions : LastSeen String := fun _ => none
  classes : LastSeen String := fun _ => none

/-- Records one more declaration. -/
def Seen.note (seen : Seen) (item : Item) : Seen where
  routes := seen.routes.note Item.route? item
  functions := seen.functions.note Item.functionName? item
  classes := seen.classes.note Item.className? item

/-- The errors about one declaration, given what was seen before it. -/
def itemErrors (seen : Seen) : Item → List Finding
  | .endpoint e =>
    match seen.routes (e.method, e.path) with
    | some first =>
      [.error s!"duplicate endpoint {e.method.name} {e.path} (lines {first} and {e.line})"]
    | none => []
  | _ => []

/-- The warnings about one declaration, given what was seen before it. -/
def itemWarnings (seen : Seen) : Item → List Finding
  | .function f =>
    match seen.functions f.name with
    | some first =>
      [.warning s!"function '{f.name}' on line {f.line} shadows the one on line {first}"]
    | none => []
  | .classDecl c =>
    (match seen.classes c.name with
      | some first =>
        [.warning s!"class '{c.name}' on line {c.line} shadows the one on line {first}"]
      | none => []) ++
    if c.methods = [] then [.warning s!"class '{c.name}' declares no methods"] else []
  | _ => []

/-- The warning about the number of server declarations; the last one takes effect. -/
def serverWarnings : List (Nat × Nat) → List Finding
  | [] => [.warning "no server declaration"]
  | [_] => []
  | _ :: second :: rest =>
    let (port, line) := (second :: rest).getLast (by simp)
    [.warning s!"multiple server declarations; port {port} from line {line} takes effect"]

/-- The findings so far and what was seen, after one more declaration. -/
def visit (state : Report × Seen) (item : Item) : Report × Seen :=
  ({ errors := state.1.errors ++ itemErrors state.2 item
     warnings := state.1.warnings ++ itemWarnings state.2 item },
    state.2.note item)

/-- All findings about a description, in one pass over its declarations. -/
def Service.check (service : Service) : Report :=
  let start : Report := { errors := [], warnings := serverWarnings service.servers }
  (service.items.foldl visit (start, {})).1

end ServiceLang
