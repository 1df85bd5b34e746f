namespace ServiceLang.Text

/-!
# Blank characters and trimming

* `isSpace`: the characters with the property `White_Space`;
* `trimStart`, `trimEnd`, `trim`: a text without its outer blanks;
* `indentation`: the number of leading blanks;
* `splitAtSpace`: the part before the first blank and the part after it;
* `firstWord?`: the first blank-free run.

Texts are lists of characters, so that a column counts characters.
-/

/-- The characters with the Unicode property `White_Space`. -/
def isSpace (c : Char) : Bool :=
  let n := c.toNat
  (9 ≤ n && n ≤ 13) || n == 32 || n == 133 || n == 160 || n == 5760 || (8192 ≤ n && n ≤ 8202) ||
    n == 8232 || n == 8233 || n == 8239 || n == 8287 || n == 12288

/-- The text without its leading blanks. -/
def trimStart (s : List Char) : List Char := s.dropWhile isSpace

/-- The text without its trailing blanks. -/
def trimEnd (s : List Char) : List Char := (s.reverse.dropWhile isSpace).reverse

/-- The text without its leading and trailing blanks. -/
def trim (s : List Char) : List Char := trimEnd (trimStart s)

/-- The number of leading blanks. -/
def indentation (s : List Char) : Nat := (s.takeWhile isSpace).length

/-- Whether nothing but blanks occurs. -/
def isBlank (s : List Char) : Bool := s.all isSpace

/-- The part before the first blank, and the part after that one blank. -/
def splitAtSpace (s : List Char) : List Char × List Char :=
  (s.takeWhile (!isSpace ·), (s.dropWhile (!isSpace ·)).drop 1)

/-- The first maximal run of characters that are not blank. -/
def firstWord? (s : List Char) : Option (List Char) :=
  match (trimStart s).takeWhile (!isSpace ·) with
  | [] => none
  | word => some word

/-- What follows `lead` in a text that starts with it. -/
def strip? : (lead s : List Char) → Option (List Char)
  | [], s => some s
  | _ :: _, [] => none
  | a :: lead, c :: s => if a = c then strip? lead s else none

end ServiceLang.Text
