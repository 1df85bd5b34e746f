import ServiceLang.Text.Alphabetic
import ServiceLang.Text.Mark
import ServiceLang.Text.Numeric
import ServiceLang.Text.Recent

namespace ServiceLang.Text

/-!
# Characters of names and words

* `isIdentStart`, `isIdentChar`, `takeIdent?`: identifiers, which are ASCII;
* `isAlphanumeric`: letters and numerals of every script;
* `isDecimal`: decimal digits of every script, as patterns know them;
* `isWordChar`: the characters between which patterns see no word boundary.
-/

/-- Whether the character is an ASCII letter. -/
def isAsciiLetter (c : Char) : Bool := ('a' ≤ c && c ≤ 'z') || ('A' ≤ c && c ≤ 'Z')

/-- Whether an identifier may start with the character. -/
def isIdentStart (c : Char) : Bool := isAsciiLetter c || c == '_'

/-- Whether an identifier may go on with the character. -/
def isIdentChar (c : Char) : Bool := isIdentStart c || ('0' ≤ c && c ≤ '9')

/-- The identifier at the start of a text, and what follows it. -/
def takeIdent? : List Char → Option (List Char × List Char)
  | [] => none
  | c :: s =>
    if isIdentStart c then some (c :: s.takeWhile isIdentChar, s.dropWhile isIdentChar) else none

/-- A letter or numeral of any script. -/
def isAlphanumeric (c : Char) : Bool :=
  alphabetic.contains c || decimalDigits.contains c || otherNumerals.contains c

/-- A decimal digit of any script that is not recent. -/
def isDecimal (c : Char) : Bool := decimalDigits.contains c && !recent.contains c

/-- A letter, mark, decimal digit, connector or joiner of any script that is not recent. -/
def isWordChar (c : Char) : Bool :=
  (alphabetic.contains c || decimalDigits.contains c || wordMarks.contains c) && !recent.contains c

end ServiceLang.Text
