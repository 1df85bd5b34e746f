import ServiceLang.Protocol.Record

namespace ServiceLang

/-!
# Completion items

* `CompletionKind`: what an item completes;
* `CompletionItem`: a proposal, with the text that accepting it inserts.
-/

/-- A field that is written only when it has a value. -/
def Json.fieldIfSome (key : String) : Option Json → List (String × Json)
  | some v => [(key, v)]
  | none => []

/-- What an item completes. -/
inductive CompletionKind where
  | text
  | function
  | classType
  | value
  | keyword
  | snippet
  deriving DecidableEq, Repr

namespace CompletionKind

/-- The code of a kind. -/
def code : CompletionKind → UInt8
  | .text => 1
  | .function => 3
  | .classType => 7
  | .value => 12
  | .keyword => 14
  | .snippet => 15

/-- The kind of a code. -/
def ofCode? : UInt8 → Option CompletionKind
  | 1 => some .text
  | 3 => some .function
  | 7 => some .classType
  | 12 => some .value
  | 14 => some .keyword
  | 15 => some .snippet
  | _ => none

/-- The kind as JSON. -/
def toJson (k : CompletionKind) : Json := .ofNat k.code.toNat

/-- The decoder of kinds. -/
def decode : Decode CompletionKind := .code "unsupported completion item kind" ofCode?

end CompletionKind

/-- A proposal: its label, and the text that accepting it inserts, in the given format. -/
structure CompletionItem where
  label : String
  kind : CompletionKind
  detail : Option String
  insertText : String
  insertTextFormat : UInt8
  documentation : Option String
  deriving DecidableEq, Repr

namespace CompletionItem

/-- The format of a text with numbered gaps to fill in. -/
def snippetFormat : UInt8 := 2

/-- The item as JSON. -/
def toJson (item : CompletionItem) : Json :=
  .obj (Json.fieldIfSome "detail" (item.detail.map .str) ++
    Json.fieldIfSome "documentation" (item.documentation.map .str) ++
    [("insertText", .str item.insertText),
      ("insertTextFormat", .ofNat item.insertTextFormat.toNat),
      ("kind", item.kind.toJson), ("label", .str item.label)])

/-- The decoder of items. -/
def decode : Decode CompletionItem :=
  (Record.start mk)
    |>.required "label" .string
    |>.required "kind" CompletionKind.decode
    |>.nullable "detail" .string
    |>.required "insertText" .string
    |>.required "insertTextFormat" .word8
    |>.nullable "documentation" .string
    |>.decode "CompletionItem"

end CompletionItem

end ServiceLang
