import ServiceLang.Text.Lines
import ServiceLang.Text.Utf16
import ServiceLang.Text.Word

namespace ServiceLang

/-!
# The word under the cursor

* `wordAt`: the maximal run of word characters around a column, counted in characters;
* `bareWord`: the word without the colons and quotes that stand around it in the source;
* `wordUnder`: both, for a place counted in lines and UTF-16 units.
-/

/-- The characters of a word under the cursor: names, numbers and paths with their quotes and
    colons. -/
def isCursorChar (c : Char) : Bool :=
  Text.isAlphanumeric c || c == '_' || c == ':' || c == '/' || c == '"'

/-- The longest end of a text that holds word characters only. -/
def runBefore (s : List Char) : List Char := (s.reverse.takeWhile isCursorChar).reverse

/-- The word around a column; none when no word character stands there. -/
def wordAt (line : List Char) (column : Nat) : Option (List Char) :=
  match (line.drop column).takeWhile isCursorChar with
  | [] => none
  | word => some (runBefore (line.take column) ++ word)

/-- Without the quote that a text may start with. -/
def dropOpeningQuote : List Char → List Char
  | '"' :: s => s
  | s => s

/-- Without the quote that a text may end with. -/
def dropClosingQuote (s : List Char) : List Char := (dropOpeningQuote s.reverse).reverse

/-- Without the colons that a text may end with. -/
def dropClosingColons (s : List Char) : List Char := (s.reverse.dropWhile (· == ':')).reverse

/-- A word without the colons at its end, and then without a quote at either end. -/
def bareWord (word : List Char) : List Char :=
  dropClosingQuote (dropOpeningQuote (dropClosingColons word))

/-- The bare word at a place; none where there is no word or nothing is left of it. -/
def wordUnder (text : List Char) (line offset : Nat) : Option (List Char) := do
  let content ← (Text.lines text)[line]?
  let word ← wordAt content (Text.charIndex content offset)
  match bareWord word with
  | [] => none
  | bare => some bare

end ServiceLang
