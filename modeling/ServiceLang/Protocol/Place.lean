import ServiceLang.Protocol.Record

namespace ServiceLang

/-!
# Places in a document

* `Position`: a line and a character offset in it, both counted from 0;
* `Range`: from one position to another, the end excluded.
-/

/-- A 32-bit word as a JSON integer. -/
def Json.ofWord32 (n : UInt32) : Json := .ofNat n.toNat

/-- The nearest 32-bit word to a number. -/
def clampWord32 (n : Nat) : UInt32 := UInt32.ofNat (min n 4294967295)

/-- A line and a character offset in it. -/
structure Position where
  line : UInt32
  character : UInt32
  deriving DecidableEq, Repr

namespace Position

/-- The position as JSON. -/
def toJson (p : Position) : Json :=
  .obj [("character", .ofWord32 p.character), ("line", .ofWord32 p.line)]

/-- The decoder of positions. -/
def decode : Decode Position :=
  (Record.start mk)
    |>.required "line" .word32
    |>.required "character" .word32
    |>.decode "LspPosition"

end Position

/-- From one position to another. -/
structure Range where
  start : Position
  stop : Position
  deriving DecidableEq, Repr

namespace Range

/-- Columns of one line. -/
def onLine (line first last : UInt32) : Range := ⟨⟨line, first⟩, ⟨line, last⟩⟩

/-- The first column of the first line. -/
def origin : Range := onLine 0 0 1

/-- The range as JSON. -/
def toJson (r : Range) : Json := .obj [("end", r.stop.toJson), ("start", r.start.toJson)]

/-- The decoder of ranges. -/
def decode : Decode Range :=
  (Record.start mk)
    |>.required "start" Position.decode
    |>.required "end" Position.decode
    |>.decode "LspRange"

end Range

end ServiceLang
