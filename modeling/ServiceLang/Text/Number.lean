namespace ServiceLang.Text

/-!
# Whole numbers in text

* `readDigits`: the value of a run of ASCII digits;
* `readBounded`: an optional plus sign and ASCII digits whose value stays within a limit;
* `digits`: the decimal digits of a number.
-/

/-- Whether the character is one of `0` to `9`. -/
def isAsciiDigit (c : Char) : Bool := '0' ≤ c && c ≤ '9'

/-- The value of an ASCII digit. -/
def digitValue (c : Char) : Nat := c.toNat - '0'.toNat

/-- The value of a run of ASCII digits. -/
def readDigits (s : List Char) : Nat := s.foldl (fun n c => n * 10 + digitValue c) 0

/-- The digits behind an optional plus sign. -/
def dropPlus : List Char → List Char
  | '+' :: s => s
  | s => s

/-- A number written with ASCII digits, one or more, behind an optional plus sign. Leading zeros
    are free; a value above `limit` is refused, and so is any other character. -/
def readBounded (limit : Nat) (s : List Char) : Option Nat :=
  let ds := dropPlus s
  if ds ≠ [] ∧ ds.all isAsciiDigit ∧ readDigits ds ≤ limit then some (readDigits ds) else none

/-- The largest 16-bit number, and so the largest port. -/
def maxPort : Nat := 65535

/-- The largest 32-bit number. -/
def maxWord32 : Nat := 4294967295

/-- The largest 64-bit number. -/
def maxWord64 : Nat := 18446744073709551615

/-- The decimal digits of a number. -/
def digits (n : Nat) : List Char := Nat.toDigits 10 n

/-- The decimal digits of an integer, behind a minus sign when it is negative. -/
def intDigits (n : Int) : List Char :=
  if n < 0 then '-' :: digits n.natAbs else digits n.natAbs

end ServiceLang.Text
