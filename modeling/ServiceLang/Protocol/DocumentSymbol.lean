import ServiceLang.Protocol.Completion
import ServiceLang.Protocol.Place

namespace ServiceLang

/-!
# Document symbols

* `SymbolKind`: what a symbol stands for;
* `DocumentSymbol`: a declaration with the declarations inside it;
* `DocumentSymbol.count`: the number of symbols in a tree.
-/

/-- What a symbol stands for. -/
inductive SymbolKind where
  | scope
  | classType
  | method
  | function
  deriving DecidableEq, Repr

namespace SymbolKind

/-- The code of a kind. -/
def code : SymbolKind → UInt8
  | .scope => 3
  | .classType => 5
  | .method => 6
  | .function => 12

/-- The kind of a code. -/
def ofCode? : UInt8 → Option SymbolKind
  | 3 => some .scope
  | 5 => some .classType
  | 6 => some .method
  | 12 => some .function
  | _ => none

/-- The kind as JSON. -/
def toJson (k : SymbolKind) : Json := .ofNat k.code.toNat

/-- The decoder of kinds. -/
def decode : Decode SymbolKind := .code "unsupported symbol kind" ofCode?

end SymbolKind

/-- A declaration: where it stands, what to select when it is revealed, and what it contains. -/
structure DocumentSymbol where
  name : String
  detail : Option String
  kind : SymbolKind
  range : Range
  selectionRange : Range
  children : List DocumentSymbol
  deriving Repr

namespace DocumentSymbol

mutual

/-- The number of symbols in a tree, its root included. -/
def count : DocumentSymbol → Nat
  | mk _ _ _ _ _ children => 1 + countAll children

/-- The number of symbols in several trees. -/
def countAll : List DocumentSymbol → Nat
  | [] => 0
  | symbol :: rest => symbol.count + countAll rest

end

mutual

/-- The symbol as JSON; what has no value and an empty list of symbols inside are left out. -/
def toJson : DocumentSymbol → Json
  | mk name detail kind range selectionRange children =>
    .obj ((if children.isEmpty then [] else [("children", .arr (toJsonAll children))]) ++
      Json.fieldIfSome "detail" (detail.map .str) ++
      [("kind", kind.toJson), ("name", .str name), ("range", range.toJson),
        ("selectionRange", selectionRange.toJson)])

/-- Several symbols as JSON. -/
def toJsonAll : List DocumentSymbol → List Json
  | [] => []
  | symbol :: rest => symbol.toJson :: toJsonAll rest

end

/-- The name of the record in messages. -/
def recordName : String := "DocumentSymbol"

/-- The reader of symbols over a decoder of the symbols inside. -/
def record (child : Decode DocumentSymbol) : Record DocumentSymbol :=
  (Record.start mk)
    |>.required "name" .string
    |>.nullable "detail" .string
    |>.required "kind" SymbolKind.decode
    |>.required "range" Range.decode
    |>.required "selectionRange" Range.decode
    |>.defaulted "children" (.list child) []

/-- The decoder of symbols for values that nest at most `depth` deep. -/
def decodeWithin : (depth : Nat) → Decode DocumentSymbol
  | 0 => fun v => .error (.wrongType v s!"struct {recordName}")
  | depth + 1 => (record (decodeWithin depth)).decode recordName

/-- The decoder of symbols. -/
def decode : Decode DocumentSymbol := fun v => decodeWithin v.depth v

end DocumentSymbol

end ServiceLang
