import ServiceLang.Text.Number
import ServiceLang.Toml.Basic

namespace ServiceLang.TomlDate

/-!
# TOML dates and times

A date, a time, or both with an optional offset. Each becomes its canonical text: a capital T
between date and time, fractions of a second without trailing zeros, a capital Z.
-/

/-- Exactly the given number of digits within bounds: the value, and what follows. -/
def readField (count low high : Nat) (s : List Char) : Option (Nat × List Char) :=
  let ds := s.take count
  let n := Text.readDigits ds
  if ds.length = count ∧ ds.all Text.isAsciiDigit ∧ low ≤ n ∧ n ≤ high then some (n, s.drop count)
  else none

/-- What follows a character that has to stand at the start. -/
def expect (c : Char) : List Char → Option (List Char)
  | d :: s => if c = d then some s else none
  | [] => none

/-- A number padded with zeros. -/
def padded (width n : Nat) : String :=
  let ds := Text.digits n
  String.ofList (List.replicate (width - ds.length) '0' ++ ds)

/-- The number of days of a month. -/
def daysIn (year month : Nat) : Nat :=
  if month = 2 then
    if year % 4 = 0 ∧ (year % 100 ≠ 0 ∨ year % 400 = 0) then 29 else 28
  else if month = 4 ∨ month = 6 ∨ month = 9 ∨ month = 11 then 30
  else 31

/-- A date, and what follows it. -/
def readDay (s : List Char) : Option (String × List Char) := do
  let (year, s) ← readField 4 0 9999 s
  let s ← expect '-' s
  let (month, s) ← readField 2 1 12 s
  let s ← expect '-' s
  let (day, s) ← readField 2 1 (daysIn year month) s
  return (s!"{padded 4 year}-{padded 2 month}-{padded 2 day}", s)

/-- The fraction of a second, if there is one; digits beyond the ninth are cut. -/
def readSecondFraction (s : List Char) : Option (String × List Char) :=
  match s with
  | '.' :: s =>
    match s.span Text.isAsciiDigit with
    | ([], _) => none
    | (ds, rest) =>
      match ((ds.take 9).reverse.dropWhile (· == '0')).reverse with
      | [] => some ("", rest)
      | ds => some (String.ofList ('.' :: ds), rest)
  | s => some ("", s)

/-- A time of day, and what follows it. -/
def readTime (s : List Char) : Option (String × List Char) := do
  let (hour, s) ← readField 2 0 23 s
  let s ← expect ':' s
  let (minute, s) ← readField 2 0 59 s
  let s ← expect ':' s
  let (second, s) ← readField 2 0 60 s
  let (fraction, s) ← readSecondFraction s
  return (s!"{padded 2 hour}:{padded 2 minute}:{padded 2 second}{fraction}", s)

/-- An offset in hours and minutes behind its sign. -/
def readShift (sign : String) (s : List Char) : Option (String × List Char) := do
  let (hours, s) ← readField 2 0 23 s
  let s ← expect ':' s
  let (minutes, s) ← readField 2 0 59 s
  let sign := if hours = 0 ∧ minutes = 0 then "+" else sign
  return (s!"{sign}{padded 2 hours}:{padded 2 minutes}", s)

/-- The offset of a time, if there is one. -/
def readOffset (s : List Char) : Option (String × List Char) :=
  match s with
  | 'Z' :: s | 'z' :: s => some ("Z", s)
  | '+' :: s => readShift "+" s
  | '-' :: s => readShift "-" s
  | s => some ("", s)

/-- Whether the character may stand between a date and a time. -/
def isDelimiter (c : Char) : Bool := c == 'T' || c == 't' || c == ' '

/-- A date, or a date and a time, and what follows it. -/
def readDate (s : List Char) : Option (Toml × List Char) := do
  let (day, s) ← readDay s
  match s with
  | c :: rest =>
    if isDelimiter c then
      match readTime rest with
      | some (time, rest) =>
        let (offset, rest) ← readOffset rest
        return (.date s!"{day}T{time}{offset}", rest)
      | none => return (.date day, s)
    else return (.date day, s)
  | [] => return (.date day, s)

/-- A date, a time, or both, and what follows. -/
def readMoment (s : List Char) : Option (Toml × List Char) :=
  (readDate s).or ((readTime s).map fun (time, s) => (.date time, s))

/-- The date or time that a whole text says. -/
def ofText? (s : String) : Option Toml :=
  match readMoment s.toList with
  | some (moment, []) => some moment
  | _ => none

end ServiceLang.TomlDate
