import ServiceLang.Outline.Scan
import ServiceLang.Protocol.DocumentSymbol

namespace ServiceLang

/-!
# The symbols of a document

The outline as a tree: the server, then the endpoints, the functions, and the classes with their
methods inside.
-/

/-- The range of a span on a line. -/
def Range.ofSpan (line : Nat) (span : Text.Span) : Range :=
  .onLine (clampWord32 line) (clampWord32 span.start) (clampWord32 span.stop)

/-- A symbol that is selected as a whole. -/
def symbolAt (name : String) (detail : Option String) (kind : SymbolKind) (line : Nat)
    (span : Text.Span) (children : List DocumentSymbol) : DocumentSymbol :=
  ⟨name, detail, kind, .ofSpan line span, .ofSpan line span, children⟩

/-- The symbol of the server line. -/
def ServerEntry.symbol (e : ServerEntry) : DocumentSymbol :=
  symbolAt "server" (some s!"port {e.port}") .scope e.line e.span []

/-- The symbol of an endpoint. -/
def EndpointEntry.symbol (e : EndpointEntry) : DocumentSymbol :=
  symbolAt s!"{e.method} {e.path}" (some "endpoint") .function e.line e.span []

/-- The symbol of a function. -/
def FunctionEntry.symbol (e : FunctionEntry) : DocumentSymbol :=
  symbolAt e.name (some "func") .function e.line e.span []

/-- The symbol of a method. -/
def FunctionEntry.methodSymbol (e : FunctionEntry) : DocumentSymbol :=
  symbolAt e.name (some s!"({e.args})") .method e.line e.span []

/-- The symbol of a class, its methods inside. -/
def ClassEntry.symbol (e : ClassEntry) : DocumentSymbol :=
  symbolAt e.name none .classType e.line e.span (e.methods.map (·.methodSymbol))

/-- The symbols of an outline. -/
def Outline.symbols (outline : Outline) : List DocumentSymbol :=
  outline.server.toList.map (·.symbol) ++ outline.endpoints.map (·.symbol) ++
    outline.functions.map (·.symbol) ++ outline.classes.map (·.symbol)

/-- The symbols of a text. -/
def documentSymbols (text : String) : List DocumentSymbol := (Outline.ofText text).symbols

end ServiceLang
