import ServiceLang.Text.Visible

namespace ServiceLang.Text

/-!
# Quoted text

Text in double quotes with escapes for what cannot be seen: the quote and the backslash, tab,
line feed, carriage return and the null character by a letter or digit, and every other
unprintable or combining character by its code point in hexadecimal.
-/

/-- A code point in hexadecimal. -/
def hexDigits (n : Nat) : List Char := Nat.toDigits 16 n

/-- A character as it stands between quotes. -/
def showChar (c : Char) : List Char :=
  if c = '\x00' then ['\\', '0']
  else if c = '\t' then ['\\', 't']
  else if c = '\r' then ['\\', 'r']
  else if c = '\n' then ['\\', 'n']
  else if c = '\\' then ['\\', '\\']
  else if c = '"' then ['\\', '"']
  else if graphemeExtenders.contains c || unprintable.contains c then
    ['\\', 'u', '\x7b'] ++ hexDigits c.toNat ++ ['\x7d']
  else [c]

/-- A text in quotes. -/
def quoted (s : String) : String := String.ofList ('"' :: (s.toList.flatMap showChar ++ ['"']))

end ServiceLang.Text
