import ServiceLang.Keyed
import ServiceLang.Outline.Basic

namespace ServiceLang

/-!
# Looking names up in an outline

Functions and classes are known by name, and the last declaration of a name counts. Methods and
endpoints keep every declaration, in source order.
-/

/-- A method with the name of the class that declares it. -/
structure MethodSite where
  className : String
  method : FunctionEntry
  deriving DecidableEq, Repr

/-- The declarations of an outline, grouped by name. -/
structure Index where
  functions : List (String × FunctionEntry) := []
  classes : List (String × ClassEntry) := []
  methods : List (String × List MethodSite) := []
  endpoints : List (String × List EndpointEntry) := []
  deriving DecidableEq, Repr

/-- The index with one class added. -/
def Index.addClass (index : Index) (entry : ClassEntry) : Index :=
  { index with
    classes := setKey entry.name entry index.classes
    methods := entry.methods.foldl (fun methods method =>
      pushKey method.name ⟨entry.name, method⟩ methods) index.methods }

/-- The index of every declaration in an outline. -/
def Index.ofOutline (outline : Outline) : Index :=
  let index := outline.classes.foldl Index.addClass {}
  { index with
    functions := outline.functions.foldl (fun functions entry =>
      setKey entry.name entry functions) []
    endpoints := outline.endpoints.foldl (fun endpoints entry =>
      pushKey entry.path entry endpoints) [] }

/-- The last function of a name. -/
def Index.function? (index : Index) (name : String) : Option FunctionEntry :=
  index.functions.lookup name

/-- The last class of a name. -/
def Index.class? (index : Index) (name : String) : Option ClassEntry :=
  index.classes.lookup name

/-- Every method of a name, in source order. -/
def Index.methodSites (index : Index) (name : String) : List MethodSite :=
  (index.methods.lookup name).getD []

/-- Every endpoint for a path, in source order. -/
def Index.endpointsAt (index : Index) (path : String) : List EndpointEntry :=
  (index.endpoints.lookup path).getD []

end ServiceLang
