import ServiceLang.Proofs.Json.Value
import ServiceLang.Proofs.Protocol.Record
import ServiceLang.Protocol.Diagnostic
import ServiceLang.Protocol.DocumentSymbol
import ServiceLang.Protocol.Hover

namespace ServiceLang

open Decode

/-!
# Values that travel as JSON

What the server sends is read back as it was sent. Fields that have no value are left out, and so is
an empty list of symbols inside a symbol.

* `isCamelCase`: how keys are spelled;
* `Travels`: the values of a type are written under the keys of its layout, and read back;
* `Travels.of_record`: so it is when the record that the type is decoded as reads the layout;
* `DocumentSymbol.decodeWithin_toJson`: a tree of symbols is read back where it may nest as deep
  as it does;
* `travels_sent`: all that is sent.
-/

/-- Whether a key is spelled in letters, the first one small. -/
def isCamelCase (key : String) : Bool :=
  key.toList.head?.any Char.isLower && key.toList.all Char.isAlpha

/-- The values of a type travel as JSON. The layout gives the value under each key of the type, if
    there is one. A value is written as the object of those keys that have a value, in ascending
    order, and it is read back from there. -/
structure Travels {α : Type} (toJson : α → Json) (decode : Decode α)
    (layout : α → List (String × Option Json)) : Prop where
  ascending (a : α) : ((layout a).map Prod.fst).Pairwise (· < ·)
  camelCase (a : α) : ((layout a).map Prod.fst).all isCamelCase = true
  written (a : α) : toJson a = .obj (Json.present (layout a))
  decoded (a : α) : decode (toJson a) = .ok a

namespace Travels

variable {α : Type} {toJson : α → Json} {decode : Decode α}
  {layout : α → List (String × Option Json)}

/-- What is written as an object is not null. -/
theorem undoes (h : Travels toJson decode layout) : decode.Undoes toJson where
  decode_encode := h.decoded
  ne_null a := by
    rw [h.written]
    exact nofun

/-- A type travels when the record that it is decoded as reads every layout. -/
theorem of_record {r : Record α} {name : String} (keys : List String)
    (hkeys : ∀ a, (layout a).map Prod.fst = keys) (hascending : keys.Pairwise (· < ·))
    (hcamel : keys.all isCamelCase = true)
    (hwritten : ∀ a, toJson a = .obj (Json.present (layout a)))
    (hread : ∀ a, r.ofObject (fun key => ((layout a).lookup key).join) = .ok a) :
    Travels toJson (r.decode name) layout where
  ascending a := by
    rw [hkeys]
    exact hascending
  camelCase a := by
    rw [hkeys]
    exact hcamel
  written := hwritten
  decoded a := by
    rw [hwritten]
    refine Record.decode_present ?_ (hread a)
    rw [hkeys]
    exact hascending

end Travels

/-! ### Places -/

/-- What is written of a position. -/
def Position.layout (p : Position) : List (String × Option Json) :=
  [("character", some (.int p.character.toNat)), ("line", some (.int p.line.toNat))]

/-- A position is written and read with all its fields. -/
theorem travels_position : Travels Position.toJson Position.decode Position.layout := by
  refine Travels.of_record ["character", "line"]
    (fun _ => rfl) (by decide) (by decide) (fun _ => rfl) ?_
  rintro ⟨line, character⟩
  refine Record.ofObject_required ?_ rfl (undoes_word32.decode_encode character)
  exact Record.ofObject_required rfl rfl (undoes_word32.decode_encode line)

/-- What is written of a range. -/
def Range.layout (r : Range) : List (String × Option Json) :=
  [("end", some r.stop.toJson), ("start", some r.start.toJson)]

theorem travels_range : Travels Range.toJson Range.decode Range.layout := by
  refine Travels.of_record ["end", "start"]
    (fun _ => rfl) (by decide) (by decide) (fun _ => rfl) ?_
  rintro ⟨start, stop⟩
  refine Record.ofObject_required ?_ rfl (travels_position.decoded stop)
  exact Record.ofObject_required rfl rfl (travels_position.decoded start)

/-! ### Diagnostics -/

theorem undoes_severity : Undoes Severity.decode Severity.toJson :=
  undoes_code fun severity => by cases severity <;> rfl

/-- What is written of a diagnostic, its severity as a number. -/
def Diagnostic.layout (d : Diagnostic) : List (String × Option Json) :=
  [("message", some (.str d.message)), ("range", some d.range.toJson),
    ("severity", some (.int d.severity.code.toNat)), ("source", some (.str d.source))]

/-- A diagnostic is written and read with all its fields. -/
theorem travels_diagnostic : Travels Diagnostic.toJson Diagnostic.decode Diagnostic.layout := by
  refine Travels.of_record ["message", "range", "severity", "source"]
    (fun _ => rfl) (by decide) (by decide) (fun _ => rfl) ?_
  rintro ⟨range, severity, message, source⟩
  refine Record.ofObject_required ?_ rfl (undoes_string.decode_encode source)
  refine Record.ofObject_required ?_ rfl (undoes_string.decode_encode message)
  refine Record.ofObject_required ?_ rfl (undoes_severity.decode_encode severity)
  exact Record.ofObject_required rfl rfl (travels_range.decoded range)

/-- What is written of a set of diagnostics. -/
def DiagnosticSet.layout (s : DiagnosticSet) : List (String × Option Json) :=
  [("diagnostics", some (.arr (s.diagnostics.map Diagnostic.toJson))), ("uri", some (.str s.uri))]

/-- The diagnostics of a document are written and read with all their fields. -/
theorem travels_diagnosticSet :
    Travels DiagnosticSet.toJson DiagnosticSet.decode DiagnosticSet.layout := by
  refine Travels.of_record ["diagnostics", "uri"]
    (fun _ => rfl) (by decide) (by decide) (fun _ => rfl) ?_
  rintro ⟨uri, diagnostics⟩
  have hlist := undoes_list travels_diagnostic.undoes
  refine Record.ofObject_required ?_ rfl (hlist.decode_encode diagnostics)
  exact Record.ofObject_required rfl rfl (undoes_string.decode_encode uri)

/-! ### Completion items -/

theorem undoes_completionKind : Undoes CompletionKind.decode CompletionKind.toJson :=
  undoes_code fun kind => by cases kind <;> rfl

/-- What is written of a completion item, its kind and its format as numbers. -/
def CompletionItem.layout (item : CompletionItem) : List (String × Option Json) :=
  [("detail", item.detail.map .str), ("documentation", item.documentation.map .str),
    ("insertText", some (.str item.insertText)),
    ("insertTextFormat", some (.int item.insertTextFormat.toNat)),
    ("kind", some (.int item.kind.code.toNat)), ("label", some (.str item.label))]

/-- A completion is written and read with all its fields. -/
theorem travels_completionItem :
    Travels CompletionItem.toJson CompletionItem.decode CompletionItem.layout := by
  refine Travels.of_record
    ["detail", "documentation", "insertText", "insertTextFormat", "kind", "label"]
    (fun _ => rfl) (by decide) (by decide) ?_ ?_
  · rintro ⟨label, kind, detail, insertText, insertTextFormat, documentation⟩
    cases detail <;> cases documentation <;> rfl
  · rintro ⟨label, kind, detail, insertText, insertTextFormat, documentation⟩
    refine Record.ofObject_nullable ?_ rfl undoes_string
    refine Record.ofObject_required ?_ rfl (undoes_word8.decode_encode insertTextFormat)
    refine Record.ofObject_required ?_ rfl (undoes_string.decode_encode insertText)
    refine Record.ofObject_nullable ?_ rfl undoes_string
    refine Record.ofObject_required ?_ rfl (undoes_completionKind.decode_encode kind)
    exact Record.ofObject_required rfl rfl (undoes_string.decode_encode label)

/-! ### Hover cards -/

/-- What is written of a marked-up text. -/
def Markup.layout (m : Markup) : List (String × Option Json) :=
  [("kind", some (.str m.kind)), ("value", some (.str m.value))]

theorem travels_markup : Travels Markup.toJson Markup.decode Markup.layout := by
  refine Travels.of_record ["kind", "value"]
    (fun _ => rfl) (by decide) (by decide) (fun _ => rfl) ?_
  rintro ⟨kind, value⟩
  refine Record.ofObject_required ?_ rfl (undoes_string.decode_encode value)
  exact Record.ofObject_required rfl rfl (undoes_string.decode_encode kind)

/-- What is written of a hover card. -/
def Hover.layout (h : Hover) : List (String × Option Json) :=
  [("contents", some h.contents.toJson), ("range", h.range.map Range.toJson)]

/-- A hover is written and read with all its fields. -/
theorem travels_hover : Travels Hover.toJson Hover.decode Hover.layout := by
  refine Travels.of_record ["contents", "range"] (fun _ => rfl) (by decide) (by decide) ?_ ?_
  · rintro ⟨contents, range⟩
    cases range <;> rfl
  · rintro ⟨contents, range⟩
    refine Record.ofObject_nullable ?_ rfl travels_range.undoes
    exact Record.ofObject_required rfl rfl (travels_markup.decoded contents)

/-! ### Document symbols -/

theorem undoes_symbolKind : Undoes SymbolKind.decode SymbolKind.toJson :=
  undoes_code fun kind => by cases kind <;> rfl

namespace DocumentSymbol

/-- Symbols are written one by one. -/
theorem toJsonAll_eq_map (symbols : List DocumentSymbol) :
    toJsonAll symbols = symbols.map toJson := by
  induction symbols with
  | nil => rfl
  | cons symbol symbols ih => rw [toJsonAll, ih, List.map_cons]

/-- What is written of a symbol, its kind as a number. No list of symbols inside is written when
    there are none. -/
def layout (s : DocumentSymbol) : List (String × Option Json) :=
  [("children", if s.children = [] then none else some (.arr (s.children.map toJson))),
    ("detail", s.detail.map .str), ("kind", some (.int s.kind.code.toNat)),
    ("name", some (.str s.name)), ("range", some s.range.toJson),
    ("selectionRange", some s.selectionRange.toJson)]

/-- A symbol is written by its layout, which leaves out absent fields. -/
theorem toJson_eq_present (s : DocumentSymbol) : s.toJson = .obj (Json.present s.layout) := by
  obtain ⟨name, detail, kind, range, selectionRange, children⟩ := s
  rw [toJson, toJsonAll_eq_map]
  cases children with
  | nil => cases detail <;> rfl
  | cons child children => cases detail <;> rfl

/-- The fields of a symbol are written in the order of their names. -/
theorem ascending_layout (s : DocumentSymbol) : (s.layout.map Prod.fst).Pairwise (· < ·) := by
  show ["children", "detail", "kind", "name", "range", "selectionRange"].Pairwise (· < ·)
  decide

/-- The symbols inside a symbol nest less deep than it does. -/
theorem depth_lt_of_mem {s child : DocumentSymbol} {depth : Nat} (h : child ∈ s.children)
    (hdepth : s.toJson.depth ≤ depth + 1) : child.toJson.depth ≤ depth := by
  have hne : s.children ≠ [] := List.ne_nil_of_mem h
  have hmem : ("children", Json.arr (s.children.map toJson)) ∈ Json.present s.layout := by
    refine Json.mem_present.mpr ?_
    rw [layout, if_neg hne]
    exact List.mem_cons_self
  rw [toJson_eq_present, Json.depth] at hdepth
  have harray : Json.depth (.arr (s.children.map toJson)) ≤ depth :=
    Json.depthFields_le_iff.mp (Nat.le_of_succ_le_succ hdepth) _ hmem
  rw [Json.depth] at harray
  exact Json.depthItems_le_iff.mp (Nat.le_of_succ_le harray) _ (List.mem_map_of_mem h)

/-- A symbol is read back when the symbols inside it are. -/
theorem ofObject_layout {child : Decode DocumentSymbol} {s : DocumentSymbol}
    (h : ∀ inner ∈ s.children, child inner.toJson = .ok inner) :
    (record child).ofObject (fun key => (s.layout.lookup key).join) = .ok s := by
  obtain ⟨name, detail, kind, range, selectionRange, children⟩ := s
  refine Record.ofObject_defaulted ?_ ?_
  · refine Record.ofObject_required ?_ rfl (travels_range.decoded selectionRange)
    refine Record.ofObject_required ?_ rfl (travels_range.decoded range)
    refine Record.ofObject_required ?_ rfl (undoes_symbolKind.decode_encode kind)
    refine Record.ofObject_nullable ?_ rfl undoes_string
    exact Record.ofObject_required rfl rfl (undoes_string.decode_encode name)
  · cases children with
    | nil => exact .inl ⟨rfl, rfl⟩
    | cons first rest => exact .inr ⟨_, rfl, list_arr_map h⟩

/-- **Trees.** A tree of symbols is read back where it may nest as deep as it does. -/
theorem decodeWithin_toJson {depth : Nat} {s : DocumentSymbol} (h : s.toJson.depth ≤ depth) :
    decodeWithin depth s.toJson = .ok s := by
  -- on the depth that is allowed: the symbols inside are read with one level less
  induction depth generalizing s with
  | zero =>
    rw [toJson_eq_present, Json.depth] at h
    exact absurd h (Nat.not_succ_le_zero _)
  | succ depth ih =>
    have hread := ofObject_layout fun inner hinner => ih (depth_lt_of_mem hinner h)
    rw [decodeWithin, toJson_eq_present]
    exact Record.decode_present s.ascending_layout hread

end DocumentSymbol

/-- A symbol is written and read with all its fields, and the symbols inside it are. -/
theorem travels_documentSymbol :
    Travels DocumentSymbol.toJson DocumentSymbol.decode DocumentSymbol.layout where
  ascending := DocumentSymbol.ascending_layout
  camelCase _ := by
    show ["children", "detail", "kind", "name", "range", "selectionRange"].all isCamelCase = true
    decide
  written := DocumentSymbol.toJson_eq_present
  decoded _ := DocumentSymbol.decodeWithin_toJson (Nat.le_refl _)

/-- **Values that travel.** Trees of symbols of any depth and width, sets of diagnostics, completion
    items and hover cards are read back from their JSON forms, with all that they consist of. Their
    keys are in camel case, kinds and severities are written as the numbers that the protocol gives
    them, and what has no value is left out, as are the symbols inside a symbol that has none. -/
theorem travels_sent :
    Travels DocumentSymbol.toJson DocumentSymbol.decode DocumentSymbol.layout ∧
    Travels DiagnosticSet.toJson DiagnosticSet.decode DiagnosticSet.layout ∧
    Travels CompletionItem.toJson CompletionItem.decode CompletionItem.layout ∧
    Travels Hover.toJson Hover.decode Hover.layout ∧
    Travels Diagnostic.toJson Diagnostic.decode Diagnostic.layout ∧
    Travels Markup.toJson Markup.decode Markup.layout ∧
    Travels Range.toJson Range.decode Range.layout ∧
    Travels Position.toJson Position.decode Position.layout ∧
    (∀ kind, (kind, SymbolKind.code kind) ∈
      [(.scope, 3), (.classType, 5), (.method, 6), (.function, 12)]) ∧
    (∀ severity, (severity, Severity.code severity) ∈
      [(.error, 1), (.warning, 2), (.information, 3), (.hint, 4)]) ∧
    (∀ kind, (kind, CompletionKind.code kind) ∈
      [(.text, 1), (.function, 3), (.classType, 7), (.value, 12), (.keyword, 14),
        (.snippet, 15)]) := by
  refine ⟨travels_documentSymbol, travels_diagnosticSet, travels_completionItem, travels_hover,
    travels_diagnostic, travels_markup, travels_range, travels_position, ?_, ?_, ?_⟩
  · intro kind
    cases kind <;> decide
  · intro severity
    cases severity <;> decide
  · intro kind
    cases kind <;> decide

end ServiceLang
