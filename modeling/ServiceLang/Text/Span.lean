import ServiceLang.Text.Space

namespace ServiceLang.Text

/-!
# Column spans

A span is a half-open range of columns on one line, counted in characters.
-/

/-- A half-open range of columns whose ends are in order. -/
structure Span where
  start : Nat
  stop : Nat
  ordered : start ≤ stop := by omega
  deriving DecidableEq, Repr

/-- The span between two columns, in whichever order they are given. -/
def Span.between (a b : Nat) : Span := ⟨min a b, max a b, by omega⟩

/-- The span of a line's content: from its first character that is not blank to its last one.
    A blank line has the empty span at column 0. -/
def Span.ofContent (line : List Char) : Span :=
  let width := (trimEnd line).length
  .between (min (indentation line) width) width

end ServiceLang.Text
