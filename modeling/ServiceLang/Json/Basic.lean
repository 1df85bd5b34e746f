namespace ServiceLang

/-!
# JSON values

* `Json`: a JSON value; a number is an integer or a binary floating-point number;
* `Json.ofFields`: an object, its keys in ascending order, the last value of a key counting;
* `Json.get?`: the value of a key of an object;
* `Json.depth`: how deep arrays and objects nest.
-/

/-- A JSON value. A floating-point number is kept as the bits of its binary64 form, and the
    fields of an object stand in ascending order of their keys. -/
inductive Json where
  | null
  | bool (b : Bool)
  | int (n : Int)
  | float (bits : UInt64)
  | str (s : String)
  | arr (items : List Json)
  | obj (fields : List (String × Json))
  deriving Repr, Inhabited

namespace Json

/-- Puts a field in its place among fields in ascending order, in place of one with its key. -/
def insertField (key : String) (value : Json) : List (String × Json) → List (String × Json)
  | [] => [(key, value)]
  | (k, v) :: rest =>
    if key < k then (key, value) :: (k, v) :: rest
    else if key = k then (key, value) :: rest
    else (k, v) :: insertField key value rest

/-- The object with the given fields; of several with one key the last counts. -/
def ofFields (fields : List (String × Json)) : Json :=
  .obj (fields.foldl (fun sorted (key, value) => insertField key value sorted) [])

/-- The value of a key; only objects have keys. -/
def get? (key : String) : Json → Option Json
  | .obj fields => fields.lookup key
  | _ => none

mutual

/-- How deep arrays and objects nest: 0 for a scalar, one more than the contents otherwise. -/
def depth : Json → Nat
  | .arr items => depthItems items + 1
  | .obj fields => depthFields fields + 1
  | _ => 0

/-- The greatest depth among the items of an array. -/
def depthItems : List Json → Nat
  | [] => 0
  | item :: rest => max item.depth (depthItems rest)

/-- The greatest depth among the values of an object. -/
def depthFields : List (String × Json) → Nat
  | [] => 0
  | (_, value) :: rest => max value.depth (depthFields rest)

end

/-- An unsigned number as a JSON integer. -/
def ofNat (n : Nat) : Json := .int n

/-- A list of strings as a JSON array. -/
def ofStrings (items : List String) : Json := .arr (items.map .str)

end Json

end ServiceLang
