import ServiceLang.Json.Render
import ServiceLang.Text.Quoted

namespace ServiceLang

/-!
# Decoding JSON values

* `DecodeError`: why a value does not decode, and the message that says so;
* `Decode`: a decoder;
* decoders for strings, bounded integers, lists, optional values and numeric codes.
-/

/-- Why a JSON value does not decode. -/
inductive DecodeError where
  /-- A value of another kind than `want`. -/
  | wrongType (value : Json) (want : String)
  /-- An integer that the type `want` does not hold. -/
  | outOfRange (n : Int) (want : String)
  /-- An object without a required field. -/
  | missingField (key : String)
  /-- An array that ends before the last required field of a record. -/
  | tooShort (length : Nat) (record : String) (fields : Nat)
  /-- An array with more elements than the record has fields. -/
  | tooLong (length : Nat)
  /-- A number that is no code of its kind, in the words of that kind. -/
  | unknownCode (phrase : String) (code : Nat)
  deriving Repr

/-- A decoder of JSON values. -/
abbrev Decode (α : Type) := Json → Except DecodeError α

/-- What kind of value was found. -/
def Json.describe : Json → String
  | .null => "null"
  | .bool b => s!"boolean `{b}`"
  | .int n => s!"integer `{n}`"
  | .float bits => s!"floating point `{String.ofList (Double.render bits)}`"
  | .str s => s!"string {Text.quoted s}"
  | .arr _ => "sequence"
  | .obj _ => "map"

/-- The error in words. -/
def DecodeError.message : DecodeError → String
  | .wrongType value want => s!"invalid type: {value.describe}, expected {want}"
  | .outOfRange n want => s!"invalid value: integer `{n}`, expected {want}"
  | .missingField key => s!"missing field `{key}`"
  | .tooShort length record fields =>
    let noun := if fields = 1 then "element" else "elements"
    s!"invalid length {length}, expected struct {record} with {fields} {noun}"
  | .tooLong length => s!"invalid length {length}, expected fewer elements in array"
  | .unknownCode phrase code => s!"{phrase} {code}"

namespace Decode

/-- A string. -/
def string : Decode String
  | .str s => .ok s
  | v => .error (.wrongType v "a string")

/-- An integer between two bounds. -/
def bounded (low high : Int) (want : String) : Decode Int
  | .int n => if low ≤ n ∧ n ≤ high then .ok n else .error (.outOfRange n want)
  | v => .error (.wrongType v want)

/-- An unsigned 32-bit integer. -/
def word32 : Decode UInt32 := fun v => do
  let n ← bounded 0 4294967295 "u32" v
  return UInt32.ofNat n.toNat

/-- An unsigned 8-bit integer. -/
def word8 : Decode UInt8 := fun v => do
  let n ← bounded 0 255 "u8" v
  return UInt8.ofNat n.toNat

/-- A signed 32-bit integer. -/
def int32 : Decode Int32 := fun v => do
  let n ← bounded (-2147483648) 2147483647 "i32" v
  return Int32.ofInt n

/-- A list. -/
def list {α : Type} (item : Decode α) : Decode (List α)
  | .arr items => items.mapM item
  | v => .error (.wrongType v "a sequence")

/-- A value that may be null. -/
def optional {α : Type} (item : Decode α) : Decode (Option α)
  | .null => .ok none
  | v => some <$> item v

/-- A numeric code: an 8-bit integer that `find?` knows. -/
def code {α : Type} (phrase : String) (find? : UInt8 → Option α) : Decode α := fun v => do
  let n ← word8 v
  match find? n with
  | some a => return a
  | none => throw (.unknownCode phrase n.toNat)

end Decode

end ServiceLang
