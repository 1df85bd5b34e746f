import ServiceLang.Json.Parse
import ServiceLang.Text.Number
import ServiceLang.Toml.Basic

namespace ServiceLang.TomlNumber

/-!
# TOML numbers

Integers are decimal with an optional sign, or hexadecimal, octal or binary without one, and fit
in 64 bits. A floating-point number has a fraction or an exponent. A single underscore may stand
between digits.
-/

/-- Digits with single underscores between them: the digits, and what follows. -/
def readGroups (isDigit : Char → Bool) : List Char → Option (List Char × List Char)
  | [] => none
  | c :: s =>
    if isDigit c then
      match s with
      | '_' :: d :: rest =>
        if isDigit d then (readGroups isDigit (d :: rest)).map fun (ds, s) => (c :: ds, s) else none
      | '_' :: [] => none
      | d :: rest =>
        if isDigit d then (readGroups isDigit (d :: rest)).map fun (ds, s) => (c :: ds, s)
        else some ([c], d :: rest)
      | [] => some ([c], [])
    else none

/-- The value of digits in a base. -/
def digitsValue (base : Nat) (ds : List Char) : Nat :=
  ds.foldl (fun n c => n * base + (Json.hexValue? c).getD 0) 0

/-- The sign at the start, and what follows it. -/
def readSign : List Char → Bool × List Char
  | '-' :: s => (true, s)
  | '+' :: s => (false, s)
  | s => (false, s)

/-- A whole number without leading zeros: its digits, and what follows. -/
def readWhole : List Char → Option (List Char × List Char)
  | '0' :: s => some (['0'], s)
  | s => readGroups Text.isAsciiDigit s

/-- The largest integer. -/
def maxInteger : Int := 9223372036854775807

/-- An integer that fits. -/
def fitting (n : Int) (s : List Char) : Option (Toml × List Char) :=
  if -maxInteger - 1 ≤ n ∧ n ≤ maxInteger then some (.int n, s) else none

/-- An integer in another base, behind its mark. -/
def readRadix (base : Nat) (isDigit : Char → Bool) (s : List Char) : Option (Toml × List Char) := do
  let (ds, s) ← readGroups isDigit s
  fitting (digitsValue base ds) s

/-- An integer, and what follows it. -/
def readInteger : List Char → Option (Toml × List Char)
  | '0' :: 'x' :: s => readRadix 16 (fun c => (Json.hexValue? c).isSome) s
  | '0' :: 'o' :: s => readRadix 8 (fun c => '0' ≤ c && c ≤ '7') s
  | '0' :: 'b' :: s => readRadix 2 (fun c => c == '0' || c == '1') s
  | s => do
    let (negative, s) := readSign s
    let (ds, s) ← readWhole s
    let n : Int := digitsValue 10 ds
    fitting (if negative then -n else n) s

/-- The digits behind a decimal point, if there is one. -/
def readFraction : List Char → Option (List Char × List Char)
  | '.' :: s => readGroups Text.isAsciiDigit s
  | s => some ([], s)

/-- An exponent, if there is one: whether it is negative, and its digits. -/
def readExponent : List Char → Option (Bool × List Char × List Char)
  | 'e' :: s | 'E' :: s => do
    let (negative, s) := readSign s
    let (ds, s) ← readGroups Text.isAsciiDigit s
    return (negative, ds, s)
  | s => some (false, [], s)

/-- Whether `n · 10 ^ e` is too large for a binary64 number, that is, at least half a step above
    the largest one. Where the number of digits decides, the power is not computed. -/
def overflows (n : Nat) (e : Int) : Bool :=
  let magnitude := (Nat.toDigits 10 n).length + e
  if n = 0 ∨ magnitude < 300 then false
  else if 320 < magnitude then true
  else
    let bound := Nat.pow 2 1024 - Nat.pow 2 970
    if 0 ≤ e then bound ≤ n * Nat.pow 10 e.toNat else bound * Nat.pow 10 (-e).toNat ≤ n

/-- A decimal number with a fraction or an exponent, and what follows it. One that is too large
    is refused, unless it is negative. -/
def readDecimal (s : List Char) : Option (Toml × List Char) := do
  let (negative, s) := readSign s
  let (whole, s) ← readWhole s
  let (fraction, s) ← readFraction s
  let (down, exponent, s) ← readExponent s
  if fraction.isEmpty && exponent.isEmpty then none
  else
    let power : Int := digitsValue 10 exponent
    let shift : Int := (if down then -power else power) - fraction.length
    if !negative && overflows (digitsValue 10 (whole ++ fraction)) shift then none
    else
      let sign := if negative then ['-'] else []
      let mark := if exponent.isEmpty then [] else 'e' :: (if down then ['-'] else [])
      let point := if fraction.isEmpty then [] else ['.']
      some (.float (String.ofList (sign ++ whole ++ point ++ fraction ++ mark ++ exponent)), s)

/-- An infinity or a number that is none, with an optional sign, and what follows it. -/
def readSpecial (s : List Char) : Option (Toml × List Char) :=
  let (negative, s) := readSign s
  let sign := if negative then "-" else ""
  match s with
  | 'i' :: 'n' :: 'f' :: s => some (.float (sign ++ "inf"), s)
  | 'n' :: 'a' :: 'n' :: s => some (.float (sign ++ "nan"), s)
  | _ => none

/-- A floating-point number, and what follows it. -/
def readFloat (s : List Char) : Option (Toml × List Char) := (readDecimal s).or (readSpecial s)

end ServiceLang.TomlNumber
