import ServiceLang.Toml.Date

namespace ServiceLang.Toml

/-!
# Marked tables

A table whose first key is `dateMark` stands for the date or time that the value of that key says;
its other keys do not count.

* `unmark`: a value with all marked tables replaced, or none when one of them says no date.
-/

/-- The key that marks a table as a date. -/
def dateMark : String := "$__toml_private_datetime"

/-- The date of a mark. -/
def markedDate? : Toml → Option Toml
  | .str s => TomlDate.ofText? s
  | _ => none

mutual

/-- A value with every marked table replaced by its date. -/
def unmark : Toml → Option Toml
  | .table ((key, v) :: rest) =>
    if key = dateMark then markedDate? v else do
      return .table ((key, ← v.unmark) :: (← unmarkEntries rest))
  | .arr items => do return .arr (← unmarkItems items)
  | v => some v

/-- The elements of an array with every marked table replaced. -/
def unmarkItems : List Toml → Option (List Toml)
  | [] => some []
  | v :: rest => do return (← v.unmark) :: (← unmarkItems rest)

/-- The entries of a table with every marked table in their values replaced. -/
def unmarkEntries : List (String × Toml) → Option (List (String × Toml))
  | [] => some []
  | (key, v) :: rest => do return (key, ← v.unmark) :: (← unmarkEntries rest)

end

end ServiceLang.Toml
