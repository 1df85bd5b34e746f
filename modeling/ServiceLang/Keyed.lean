namespace ServiceLang

/-!
# Lists of keys and values

A list of pairs as a finite map: `List.lookup` finds a key, `setKey` sets one, `pushKey` adds to
the list of one, and `eraseKey` drops one.
-/

/-- Sets the value of a key, in place of an earlier one. -/
def setKey {α : Type} (key : String) (value : α) : List (String × α) → List (String × α)
  | [] => [(key, value)]
  | (k, v) :: rest => if k = key then (key, value) :: rest else (k, v) :: setKey key value rest

/-- Adds an element at the end of a key's list. -/
def pushKey {α : Type} (key : String) (a : α) : List (String × List α) → List (String × List α)
  | [] => [(key, [a])]
  | (k, as) :: rest => if k = key then (k, as ++ [a]) :: rest else (k, as) :: pushKey key a rest

/-- Drops a key. -/
def eraseKey {α : Type} (key : String) (entries : List (String × α)) : List (String × α) :=
  entries.filter (·.1 ≠ key)

end ServiceLang
