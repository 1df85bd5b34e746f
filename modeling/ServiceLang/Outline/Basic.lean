import ServiceLang.Text.Span

namespace ServiceLang

/-!
# Outlines

An outline lists what a text declares, found line by line without parsing. It exists for every
text. Lines are counted from 0, and each entry carries the span of its line's content.
-/

open Text (Span)

/-- The active `server` line. -/
structure ServerEntry where
  port : Nat
  line : Nat
  span : Span
  deriving DecidableEq, Repr

/-- An `endpoint` line, its method as written and its path without quotes. -/
structure EndpointEntry where
  method : String
  path : String
  line : Nat
  span : Span
  deriving DecidableEq, Repr

/-- A `func` line, or a method line inside a class, with the raw text between its parentheses. -/
structure FunctionEntry where
  name : String
  args : String
  line : Nat
  span : Span
  deriving DecidableEq, Repr

/-- A `class` line with the methods of its block, in source order. -/
structure ClassEntry where
  name : String
  line : Nat
  span : Span
  methods : List FunctionEntry
  deriving DecidableEq, Repr

/-- What a text declares; of several `server` lines the last one counts. -/
structure Outline where
  server : Option ServerEntry := none
  endpoints : List EndpointEntry := []
  functions : List FunctionEntry := []
  classes : List ClassEntry := []
  deriving DecidableEq, Repr

/-- The number of methods in all classes. -/
def Outline.methodCount (outline : Outline) : Nat :=
  (outline.classes.flatMap (·.methods)).length

end ServiceLang
