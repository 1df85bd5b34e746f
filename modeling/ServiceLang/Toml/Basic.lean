namespace ServiceLang

/-!
# TOML values

* `Toml`: a value, a document being a table;
* `Toml.get?`: the value of a key.
-/

/-- A TOML value. A floating-point number keeps its written form without underscores, and a date
    or time its canonical text. -/
inductive Toml where
  | str (s : String)
  | int (n : Int)
  | float (written : String)
  | bool (b : Bool)
  | date (text : String)
  | arr (items : List Toml)
  | table (entries : List (String × Toml))
  deriving Repr, Inhabited

/-- The value of a key; only tables have keys. -/
def Toml.get? (key : String) : Toml → Option Toml
  | .table entries => entries.lookup key
  | _ => none

end ServiceLang
