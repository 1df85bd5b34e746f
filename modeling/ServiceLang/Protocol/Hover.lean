import ServiceLang.Protocol.Completion
import ServiceLang.Protocol.Place

namespace ServiceLang

/-!
# Hover cards

* `Markup`: text with the name of its markup language;
* `Hover`: what is shown for a place in a document.
-/

/-- Text with the name of its markup language. -/
structure Markup where
  kind : String
  value : String
  deriving DecidableEq, Repr

namespace Markup

/-- A text in Markdown. -/
def markdown (value : String) : Markup := ⟨"markdown", value⟩

/-- The text as JSON. -/
def toJson (m : Markup) : Json := .obj [("kind", .str m.kind), ("value", .str m.value)]

/-- The decoder of marked-up text. -/
def decode : Decode Markup :=
  (Record.start mk)
    |>.required "kind" .string
    |>.required "value" .string
    |>.decode "MarkupContent"

end Markup

/-- What is shown for a place in a document, and for which range. -/
structure Hover where
  contents : Markup
  range : Option Range
  deriving DecidableEq, Repr

namespace Hover

/-- The card as JSON. -/
def toJson (h : Hover) : Json :=
  .obj (("contents", h.contents.toJson) :: Json.fieldIfSome "range" (h.range.map (·.toJson)))

/-- The decoder of cards. -/
def decode : Decode Hover :=
  (Record.start mk)
    |>.required "contents" Markup.decode
    |>.nullable "range" Range.decode
    |>.decode "Hover"

end Hover

end ServiceLang
