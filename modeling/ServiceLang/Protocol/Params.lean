import ServiceLang.Protocol.Place

namespace ServiceLang

/-!
# Parameters of requests and notifications about documents

* `DocumentId`, `DocumentItem`: a document by its name, or with its text;
* `OpenParams`, `ChangeParams`, `SaveParams`, `CloseParams`: what happened to a document;
* `PositionParams`, `SymbolParams`: what a query asks about.
-/

/-- A document by its name. -/
structure DocumentId where
  uri : String
  deriving DecidableEq, Repr

namespace DocumentId

/-- The identifier as JSON. -/
def toJson (d : DocumentId) : Json := .obj [("uri", .str d.uri)]

/-- The decoder of identifiers. -/
def decode : Decode DocumentId :=
  (Record.start mk) |>.required "uri" .string |>.decode "TextDocumentIdentifier"

end DocumentId

/-- A document with its text. -/
structure DocumentItem where
  uri : String
  languageId : String
  version : Int32
  text : String
  deriving DecidableEq, Repr

namespace DocumentItem

/-- The document as JSON. -/
def toJson (d : DocumentItem) : Json :=
  .obj [("languageId", .str d.languageId), ("text", .str d.text), ("uri", .str d.uri),
    ("version", .int d.version.toInt)]

/-- The decoder of documents. -/
def decode : Decode DocumentItem :=
  (Record.start mk)
    |>.required "uri" .string
    |>.defaulted "languageId" .string ""
    |>.defaulted "version" .int32 0
    |>.required "text" .string
    |>.decode "TextDocumentItem"

end DocumentItem

/-- A document was opened. -/
structure OpenParams where
  document : DocumentItem
  deriving DecidableEq, Repr

namespace OpenParams

/-- The parameters as JSON. -/
def toJson (p : OpenParams) : Json := .obj [("textDocument", p.document.toJson)]

/-- The decoder of the parameters. -/
def decode : Decode OpenParams :=
  (Record.start mk)
    |>.required "textDocument" DocumentItem.decode
    |>.decode "DidOpenTextDocumentParams"

end OpenParams

/-- A change gives the whole new text. -/
structure ContentChange where
  text : String
  deriving DecidableEq, Repr

namespace ContentChange

/-- The change as JSON. -/
def toJson (c : ContentChange) : Json := .obj [("text", .str c.text)]

/-- The decoder of changes. -/
def decode : Decode ContentChange :=
  (Record.start mk) |>.required "text" .string |>.decode "TextDocumentContentChangeEvent"

end ContentChange

/-- A document was changed; the last change counts. -/
structure ChangeParams where
  document : DocumentId
  changes : List ContentChange
  deriving DecidableEq, Repr

namespace ChangeParams

/-- The parameters as JSON. -/
def toJson (p : ChangeParams) : Json :=
  .obj [("contentChanges", .arr (p.changes.map (·.toJson))), ("textDocument", p.document.toJson)]

/-- The decoder of the parameters. -/
def decode : Decode ChangeParams :=
  (Record.start mk)
    |>.required "textDocument" DocumentId.decode
    |>.required "contentChanges" (.list ContentChange.decode)
    |>.decode "DidChangeTextDocumentParams"

end ChangeParams

/-- A document was saved, with this text if it is given. -/
structure SaveParams where
  document : DocumentId
  text : Option String
  deriving DecidableEq, Repr

namespace SaveParams

/-- The parameters as JSON. -/
def toJson (p : SaveParams) : Json :=
  .obj [("text", (p.text.map Json.str).getD .null), ("textDocument", p.document.toJson)]

/-- The decoder of the parameters. -/
def decode : Decode SaveParams :=
  (Record.start mk)
    |>.required "textDocument" DocumentId.decode
    |>.defaulted "text" (.optional .string) none
    |>.decode "DidSaveTextDocumentParams"

end SaveParams

/-- A document was closed. -/
structure CloseParams where
  document : DocumentId
  deriving DecidableEq, Repr

namespace CloseParams

/-- The parameters as JSON. -/
def toJson (p : CloseParams) : Json := .obj [("textDocument", p.document.toJson)]

/-- The decoder of the parameters. -/
def decode : Decode CloseParams :=
  (Record.start mk)
    |>.required "textDocument" DocumentId.decode
    |>.decode "DidCloseTextDocumentParams"

end CloseParams

/-- A query about a place in a document. -/
structure PositionParams where
  document : DocumentId
  position : Position
  deriving DecidableEq, Repr

namespace PositionParams

/-- The parameters as JSON. -/
def toJson (p : PositionParams) : Json :=
  .obj [("position", p.position.toJson), ("textDocument", p.document.toJson)]

/-- The decoder of the parameters. -/
def decode : Decode PositionParams :=
  (Record.start mk)
    |>.required "textDocument" DocumentId.decode
    |>.required "position" Position.decode
    |>.decode "TextDocumentPositionParams"

end PositionParams

/-- A query for the symbols of a document. -/
structure SymbolParams where
  document : DocumentId
  deriving DecidableEq, Repr

namespace SymbolParams

/-- The parameters as JSON. -/
def toJson (p : SymbolParams) : Json := .obj [("textDocument", p.document.toJson)]

/-- The decoder of the parameters. -/
def decode : Decode SymbolParams :=
  (Record.start mk)
    |>.required "textDocument" DocumentId.decode
    |>.decode "DocumentSymbolParams"

end SymbolParams

end ServiceLang
