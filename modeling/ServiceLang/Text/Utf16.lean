namespace ServiceLang.Text

/-!
# UTF-16 offsets

Editors count columns in UTF-16 code units: a character outside the basic plane has two.
-/

/-- The number of UTF-16 code units of a character. -/
def units (c : Char) : Nat := if c.toNat < 0x10000 then 1 else 2

/-- The number of UTF-16 code units of a text. -/
def unitLength : List Char → Nat
  | [] => 0
  | c :: s => units c + unitLength s

/-- The index of the character that covers a UTF-16 offset: an offset inside a pair belongs to
    its character, and one past the end gives the number of characters. -/
def charIndex : List Char → (offset : Nat) → Nat
  | [], _ => 0
  | c :: s, offset => if offset < units c then 0 else charIndex s (offset - units c) + 1

end ServiceLang.Text
