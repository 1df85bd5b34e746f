import ServiceLang.Json.Basic
import ServiceLang.Json.Double

namespace ServiceLang.Json

/-!
# Reading JSON

The grammar is strict: blanks are space, tab, line feed and carriage return; strings hold no raw
control character and no lone surrogate escape; a number has no surplus leading zero, and one
that is too large is refused. An integer outside the 64-bit ranges is read as a floating-point
number, and so is `-0`. Arrays and objects nest at most `nestingLimit` deep. Of several fields
with one key the last counts.
-/

/-- How deep arrays and objects may nest. -/
def nestingLimit : Nat := 127

/-- Whether a character may separate tokens. -/
def isBlank (c : Char) : Bool := c == ' ' || c == '\t' || c == '\n' || c == '\r'

/-- The text from its next token on. -/
def skipBlanks (s : List Char) : List Char := s.dropWhile isBlank

/-! ### Strings -/

/-- Where the reader of a string stands: between characters, behind a backslash, inside the four
    digits of a code unit (perhaps after a leading surrogate), or before the second half of a
    surrogate pair. -/
inductive TextState where
  | plain
  | escape
  | unit (leading : Option Nat) (left value : Nat)
  | pairBackslash (leading : Nat)
  | pairLetter (leading : Nat)
  deriving DecidableEq, Repr

/-- The character that a one-letter escape stands for. -/
def shortEscape? (c : Char) : Option Char :=
  if c = '"' then some '"'
  else if c = '\\' then some '\\'
  else if c = '/' then some '/'
  else if c = 'b' then some '\x08'
  else if c = 'f' then some '\x0c'
  else if c = 'n' then some '\n'
  else if c = 'r' then some '\r'
  else if c = 't' then some '\t'
  else none

/-- The value of a hexadecimal digit. -/
def hexValue? (c : Char) : Option Nat :=
  if '0' ≤ c && c ≤ '9' then some (c.toNat - '0'.toNat)
  else if 'a' ≤ c && c ≤ 'f' then some (c.toNat - 'a'.toNat + 10)
  else if 'A' ≤ c && c ≤ 'F' then some (c.toNat - 'A'.toNat + 10)
  else none

/-- Whether a code unit is a leading surrogate. -/
def isLeading (n : Nat) : Bool := 0xD800 ≤ n && n ≤ 0xDBFF

/-- Whether a code unit is a trailing surrogate. -/
def isTrailing (n : Nat) : Bool := 0xDC00 ≤ n && n ≤ 0xDFFF

/-- What a complete code unit yields: a character, a wait for the second half of a pair, or
    nothing. -/
def closeUnit (leading : Option Nat) (n : Nat) : Option (Char ⊕ TextState) :=
  match leading with
  | none =>
    if isTrailing n then none
    else if isLeading n then some (.inr (.pairBackslash n))
    else some (.inl (Char.ofNat n))
  | some high =>
    if isTrailing n then
      some (.inl (Char.ofNat (0x10000 + (high - 0xD800) * 0x400 + (n - 0xDC00))))
    else none

/-- The rest of a string up to its closing quote, and what follows; `reversed` holds the
    characters read so far. -/
def readText : TextState → (reversed s : List Char) → Option (List Char × List Char)
  | _, _, [] => none
  | .plain, reversed, c :: s =>
    if c = '"' then some (reversed.reverse, s)
    else if c = '\\' then readText .escape reversed s
    else if c.toNat < 32 then none
    else readText .plain (c :: reversed) s
  | .escape, reversed, c :: s =>
    match shortEscape? c with
    | some d => readText .plain (d :: reversed) s
    | none => if c = 'u' then readText (.unit none 4 0) reversed s else none
  | .unit leading left value, reversed, c :: s =>
    match hexValue? c with
    | none => none
    | some d =>
      if left ≤ 1 then
        match closeUnit leading (value * 16 + d) with
        | some (.inl ch) => readText .plain (ch :: reversed) s
        | some (.inr state) => readText state reversed s
        | none => none
      else readText (.unit leading (left - 1) (value * 16 + d)) reversed s
  | .pairBackslash leading, reversed, c :: s =>
    if c = '\\' then readText (.pairLetter leading) reversed s else none
  | .pairLetter leading, reversed, c :: s =>
    if c = 'u' then readText (.unit (some leading) 4 0) reversed s else none

/-! ### Numbers -/

/-- Takes leading digits into a significand as long as it stays within 64 bits, and gives the
    digits that are left. -/
def absorb (significand : Nat) : List Char → Nat × List Char
  | [] => (significand, [])
  | d :: ds =>
    let next := significand * 10 + Text.digitValue d
    if next ≤ Text.maxWord64 then absorb next ds else (significand, d :: ds)

/-- A number written as an integer. -/
def integerValue (negative : Bool) (significand : Nat) : Json :=
  if negative then
    if significand = 0 ∨ Nat.pow 2 63 < significand then
      .float (-(UInt64.ofNat significand).toFloat).toBits
    else .int (-(significand : Int))
  else .int significand

/-- The digits behind a decimal point, at least one; none are there without a point. -/
def readFraction : List Char → Option (List Char × List Char)
  | '.' :: s =>
    match s.takeWhile Text.isAsciiDigit with
    | [] => none
    | ds => some (ds, s.dropWhile Text.isAsciiDigit)
  | s => some ([], s)

/-- The sign in front of an exponent: whether it is a minus. -/
def readSign : List Char → Bool × List Char
  | '+' :: s => (false, s)
  | '-' :: s => (true, s)
  | s => (false, s)

/-- The exponent, when a number has one. -/
def readExponent : List Char → Option (Option Int × List Char)
  | [] => some (none, [])
  | c :: s =>
    if c = 'e' ∨ c = 'E' then
      let (negative, s) := readSign s
      match s.takeWhile Text.isAsciiDigit with
      | [] => none
      | ds =>
        let n : Int := Text.readDigits ds
        some (some (if negative then -n else n), s.dropWhile Text.isAsciiDigit)
    else some (none, c :: s)

/-- Whether the digits before the point have no surplus leading zero. -/
def wellFormedInteger : List Char → Bool
  | [] => false
  | ['0'] => true
  | '0' :: _ => false
  | _ => true

/-- The number with the given sign at the start of a text, and what follows it. -/
def readUnsigned (negative : Bool) (s : List Char) : Option (Json × List Char) := do
  let whole := s.takeWhile Text.isAsciiDigit
  if !wellFormedInteger whole then none
  let (fraction, s) ← readFraction (s.dropWhile Text.isAsciiDigit)
  let (exponent, s) ← readExponent s
  let (significand, skipped) := absorb 0 whole
  if fraction = [] ∧ exponent = none ∧ skipped = [] then
    return (integerValue negative significand, s)
  let (significand, dropped) := absorb significand fraction
  let places : Int := skipped.length - (fraction.length - dropped.length)
  let bits ← Double.ofDecimal? negative significand (places + exponent.getD 0)
  return (.float bits, s)

/-- The number at the start of a text, and what follows it. -/
def readNumber : List Char → Option (Json × List Char)
  | '-' :: s => readUnsigned true s
  | s => readUnsigned false s

/-! ### Values -/

/-- The items of an array up to its closing bracket; `fuel` bounds their number. -/
def readItems (readItem : List Char → Option (Json × List Char)) :
    (fuel : Nat) → List Char → Option (List Json × List Char)
  | 0, _ => none
  | fuel + 1, s => do
    let (item, s) ← readItem s
    match skipBlanks s with
    | ',' :: s =>
      let (items, s) ← readItems readItem fuel s
      return (item :: items, s)
    | ']' :: s => return ([item], s)
    | _ => none

/-- The fields of an object up to its closing brace; `fuel` bounds their number. -/
def readFields (readItem : List Char → Option (Json × List Char)) :
    (fuel : Nat) → List Char → Option (List (String × Json) × List Char)
  | 0, _ => none
  | fuel + 1, s => do
    let '"' :: s := skipBlanks s | none
    let (key, s) ← readText .plain [] s
    let ':' :: s := skipBlanks s | none
    let (value, s) ← readItem s
    match skipBlanks s with
    | ',' :: s =>
      let (fields, s) ← readFields readItem fuel s
      return ((String.ofList key, value) :: fields, s)
    | '\x7d' :: s => return ([(String.ofList key, value)], s)
    | _ => none

/-- What follows a literal, with its value. -/
def readLiteral (word : String) (value : Json) (s : List Char) : Option (Json × List Char) :=
  if word.toList.isPrefixOf s then some (value, s.drop word.length) else none

/-- The value at the start of a text, and what follows it; arrays and objects nest at most
    `depth` deep. -/
def readValue : (depth : Nat) → List Char → Option (Json × List Char)
  | depth, s =>
    match skipBlanks s with
    | '"' :: s => (readText .plain [] s).map fun (text, s) => (.str (String.ofList text), s)
    | '[' :: s =>
      match depth with
      | 0 => none
      | depth + 1 =>
        match skipBlanks s with
        | ']' :: s => some (.arr [], s)
        | s => (readItems (readValue depth) (s.length + 1) s).map fun (items, s) => (.arr items, s)
    | '\x7b' :: s =>
      match depth with
      | 0 => none
      | depth + 1 =>
        match skipBlanks s with
        | '\x7d' :: s => some (.obj [], s)
        | s =>
          (readFields (readValue depth) (s.length + 1) s).map fun (fields, s) =>
            (ofFields fields, s)
    | 'n' :: s => readLiteral "null" .null ('n' :: s)
    | 't' :: s => readLiteral "true" (.bool true) ('t' :: s)
    | 'f' :: s => readLiteral "false" (.bool false) ('f' :: s)
    | s => readNumber s

/-- Reads a text that holds one value and nothing else. -/
def parse (text : String) : Option Json :=
  match readValue nestingLimit text.toList with
  | some (value, rest) => if skipBlanks rest = [] then some value else none
  | none => none

end ServiceLang.Json
