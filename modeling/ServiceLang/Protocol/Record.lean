import ServiceLang.Protocol.Decode

namespace ServiceLang

/-!
# Decoding records

A record is written as an object, or as an array of its fields in order. In an object unknown
keys are ignored; a bad value is reported before a missing field, the bad value with the least
key first and the missing field that comes first in the record. In an array the fields are read
in order; one that is too short is reported with the index of the first field that it lacks and
that has no default, and surplus elements are refused.

* `Field`: a field of a record;
* `Record`: a reader of records, built up field by field with `Record.field`;
* `Record.decode`: the decoder.
-/

/-- A field: its key, the decoder of its value, and what it is when an object lacks it or an
    array ends before it. -/
structure Field (α : Type) where
  key : String
  decode : Decode α
  whenAbsent : Option α := none
  whenCut : Option α := none

/-- What is wrong with the fields of an object. -/
structure FieldProblems where
  bad : List (String × DecodeError) := []
  missing : List String := []

/-- The bad value with the least key. -/
def leastBad : List (String × DecodeError) → Option (String × DecodeError)
  | [] => none
  | (key, e) :: rest =>
    match leastBad rest with
    | some (least, e') => if least < key then some (least, e') else some (key, e)
    | none => some (key, e)

/-- The problem that is reported. -/
def FieldProblems.first (problems : FieldProblems) : DecodeError :=
  match leastBad problems.bad with
  | some (_, e) => e
  | none => .missingField (problems.missing.headD "")

/-- The problems of two groups of fields. -/
def FieldProblems.append (a b : FieldProblems) : FieldProblems :=
  ⟨a.bad ++ b.bad, a.missing ++ b.missing⟩

/-- What stops the reading of an array: its end before a field, of which the index is given, or a
    bad element. -/
inductive ArrayStop where
  | ended (index : Nat)
  | bad (e : DecodeError)

/-- A reader of records. -/
structure Record (α : Type) where
  size : Nat
  ofObject : (String → Option Json) → Except FieldProblems α
  ofArray : List Json → Except ArrayStop (α × List Json)

namespace Record

/-- The record without fields. -/
def start {α : Type} (make : α) : Record α where
  size := 0
  ofObject _ := .ok make
  ofArray items := .ok (make, items)

/-- A field read from an object. -/
def fieldOfObject {α : Type} (f : Field α) (get : String → Option Json) :
    Except FieldProblems α :=
  match get f.key with
  | some v =>
    match f.decode v with
    | .ok a => .ok a
    | .error e => .error { bad := [(f.key, e)] }
  | none =>
    match f.whenAbsent with
    | some a => .ok a
    | none => .error { missing := [f.key] }

/-- The field of the given index, read from what is left of an array. -/
def fieldOfArray {α : Type} (f : Field α) (index : Nat) :
    List Json → Except ArrayStop (α × List Json)
  | v :: rest =>
    match f.decode v with
    | .ok a => .ok (a, rest)
    | .error e => .error (.bad e)
  | [] =>
    match f.whenCut with
    | some a => .ok (a, [])
    | none => .error (.ended index)

/-- The record with one more field. -/
def field {α β : Type} (r : Record (α → β)) (f : Field α) : Record β where
  size := r.size + 1
  ofObject get :=
    match r.ofObject get, fieldOfObject f get with
    | .ok make, .ok a => .ok (make a)
    | .error p, .error q => .error (p.append q)
    | .error p, .ok _ => .error p
    | .ok _, .error q => .error q
  ofArray items :=
    match r.ofArray items with
    | .error stop => .error stop
    | .ok (make, rest) =>
      match fieldOfArray f r.size rest with
      | .error stop => .error stop
      | .ok (a, rest) => .ok (make a, rest)

/-- A record with one more required field. -/
def required {α β : Type} (r : Record (α → β)) (key : String) (decode : Decode α) : Record β :=
  r.field { key, decode }

/-- A record with one more field that may be null, and that an object may lack. -/
def nullable {α β : Type} (r : Record (Option α → β)) (key : String) (decode : Decode α) :
    Record β :=
  r.field { key, decode := .optional decode, whenAbsent := some none }

/-- A record with one more field that has a default wherever it is absent. -/
def defaulted {α β : Type} (r : Record (α → β)) (key : String) (decode : Decode α) (d : α) :
    Record β :=
  r.field { key, decode, whenAbsent := some d, whenCut := some d }

/-- The decoder of a record of the given name. -/
def decode {α : Type} (name : String) (r : Record α) : Decode α
  | .obj fields =>
    match r.ofObject (fields.lookup ·) with
    | .ok a => .ok a
    | .error problems => .error problems.first
  | .arr items =>
    match r.ofArray items with
    | .ok (a, []) => .ok a
    | .ok (_, _ :: _) => .error (.tooLong items.length)
    | .error (.ended index) => .error (.tooShort index name r.size)
    | .error (.bad e) => .error e
  | v => .error (.wrongType v s!"struct {name}")

end Record

end ServiceLang
