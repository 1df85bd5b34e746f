import ServiceLang.Settings.Basic
import ServiceLang.Toml.Marked
import ServiceLang.Toml.Overlay
import ServiceLang.Toml.Parse

namespace ServiceLang

/-!
# Settings in TOML

A group of settings is a table, or an array of its values in order. Unknown keys are ignored.

* `Settings.ofText`: the settings of a document, validated;
* `Settings.layer`: settings with a document laid over them.

A document that is read on its own takes a date in place of a group for an empty group, and
ignores surplus values of an array. In layers, a date counts as its text, a marked table counts as
a date, and surplus values are refused.
-/

/-- How values are read: from a document on its own, or from layers. -/
inductive Reading where
  | document
  | layers
  deriving DecidableEq, Repr

/-- The values of a group, by key or by position. -/
inductive GroupValues where
  | named (entries : List (String × Toml))
  | placed (items : List Toml)

/-- Reads one value of a group. It has a default where its key is missing, and where an array
    ends before it if `whenCut` gives one. -/
def GroupValues.read {α : Type} (values : GroupValues) (index : Nat) (key : String)
    (readItem : Toml → Option α) (whenAbsent : α) (whenCut : Option α) : Option α :=
  match values with
  | .named entries =>
    match entries.lookup key with
    | some v => readItem v
    | none => some whenAbsent
  | .placed items =>
    match items[index]? with
    | some v => readItem v
    | none => whenCut

namespace Reading

/-- The values of a group that has the given number of them. -/
def group (r : Reading) (size : Nat) : Toml → Option GroupValues
  | .table entries => some (.named entries)
  | .arr items => if r = .layers ∧ size < items.length then none else some (.placed items)
  | .date _ => if r = .document then some (.named []) else none
  | _ => none

/-- A text. -/
def text (r : Reading) : Toml → Option String
  | .str s => some s
  | .date s => if r = .layers then some s else none
  | _ => none

/-- A list of texts. -/
def texts (r : Reading) : Toml → Option (List String)
  | .arr items => items.mapM r.text
  | _ => none

/-- A level: its name, or a table with the name as its only key and nothing inside. -/
def level : Toml → Option LogLevel
  | .str s => LogLevel.ofName? s
  | .table [(name, .table [])] => LogLevel.ofName? name
  | .table [(name, .arr [])] => LogLevel.ofName? name
  | _ => none

/-- A 32-bit number. -/
def word32 : Toml → Option UInt32
  | .int n => if 0 ≤ n ∧ n ≤ 4294967295 then some (UInt32.ofNat n.toNat) else none
  | _ => none

/-- The settings of the log. -/
def log (r : Reading) (v : Toml) : Option LogSettings := do
  let values ← r.group 2 v
  let level ← values.read 0 "level" level .info (some .info)
  let file ← values.read 1 "file" (fun v => (r.text v).map some) none none
  return { level, file }

/-- The settings of the server. -/
def server (r : Reading) (v : Toml) : Option ServerSettings := do
  let values ← r.group 2 v
  let command ← values.read 0 "command" (fun v => (r.text v).map some) none none
  let args ← values.read 1 "args" r.texts [] (some [])
  return { command, args }

/-- The settings of diagnostics. -/
def diagnostics (r : Reading) (v : Toml) : Option DiagnosticsSettings := do
  let values ← r.group 2 v
  let source ← values.read 0 "source" r.text "webdsl" (some "webdsl")
  let width ← values.read 1 "parse_error_width" word32 200 (some 200)
  return { source, width }

/-- All settings. -/
def settings (r : Reading) (v : Toml) : Option Settings := do
  let values ← r.group 3 v
  let log ← values.read 0 "log" r.log {} (some {})
  let server ← values.read 1 "server" r.server {} (some {})
  let diagnostics ← values.read 2 "diagnostics" r.diagnostics {} (some {})
  return { log, server, diagnostics }

end Reading

/-- An entry that is written only when it has a value. -/
def Toml.entryIfSome (key : String) : Option String → List (String × Toml)
  | some s => [(key, .str s)]
  | none => []

namespace Settings

/-- The settings as a document. -/
def toToml (s : Settings) : Toml :=
  .table [
    ("log", .table (("level", .str s.log.level.name) :: Toml.entryIfSome "file" s.log.file)),
    ("server", .table (Toml.entryIfSome "command" s.server.command ++
      [("args", .arr (s.server.args.map .str))])),
    ("diagnostics", .table [
      ("source", .str s.diagnostics.source),
      ("parse_error_width", .int s.diagnostics.width.toNat)])]

/-- The error of a text that is not TOML. -/
def notToml : SettingsError := .parse "not a TOML document"

/-- The error of a document with a value of the wrong kind. -/
def wrongKind : SettingsError := .parse "a value has the wrong kind"

/-- The settings of a document, validated. -/
def ofText (text : String) : Except SettingsError Settings :=
  match Toml.parse text with
  | none => .error notToml
  | some v =>
    match Reading.document.settings v with
    | none => .error wrongKind
    | some s => s.validated

/-- Settings with a document laid over them: what the document gives wins, and the rest stays. -/
def layer (base : Settings) (text : String) : Except SettingsError Settings :=
  match (Toml.parse text).bind Toml.unmark with
  | none => .error notToml
  | some v =>
    match Reading.layers.settings (base.toToml.overlay v) with
    | none => .error wrongKind
    | some s => .ok s

end Settings

end ServiceLang
