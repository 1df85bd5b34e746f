import ServiceLang.Text.Space

namespace ServiceLang.Text

/-!
# Lines

A line ends at a line feed, and a carriage return directly before the line feed belongs to the
line end. A last line without a line feed counts when it is not empty, and keeps a carriage
return at its end. No other character ends a line.
-/

/-- A finished line, given in reverse, without the carriage return before its line feed. -/
def closeLine : List Char → List Char
  | '\r' :: reversed => reversed.reverse
  | reversed => reversed.reverse

/-- The lines of a text whose current line has been read up to `reversed`. -/
def linesFrom : (reversed s : List Char) → List (List Char)
  | [], [] => []
  | reversed@(_ :: _), [] => [reversed.reverse]
  | reversed, c :: s =>
    if c = '\n' then closeLine reversed :: linesFrom [] s else linesFrom (c :: reversed) s

/-- The lines of a text. -/
def lines (s : List Char) : List (List Char) := linesFrom [] s

/-- The lines of a text with their numbers, counted from `first`. -/
def numberedLines (first : Nat) (s : List Char) : List (List Char × Nat) := (lines s).zipIdx first

end ServiceLang.Text
