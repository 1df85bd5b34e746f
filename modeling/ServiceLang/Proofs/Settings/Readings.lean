import ServiceLang.Proofs.Settings.Layers

namespace ServiceLang

open Toml

/-!
# One document, two readings

A document can be read on its own, or as a layer over the defaults. The first reading fills in the
defaults for what is missing, the second one finds them below.

* `Toml.Grouped`: a document whose groups are tables, with a level that is none;
* `knownKeys`, `Toml.OfKind`, `Toml.Worded`: the known keys have values of their kinds, dates
  counting as texts, and none of the texts is a date;
* `Settings.ReadAs`: the settings that a reading finds under the known keys;
* `Reading.settings_eq_some_iff`: what a reading of a document comes to;
* `readAs_overlay`: the defaults below a layer are those that are filled in;
* `Settings.layer_eq_ok_iff`: what a layer over the defaults comes to;
* `SameOutcome`, `Settings.ofText_agrees_iff`: when both readings agree.
-/

/-! ### What documents hold -/

/-- The groups of a document are tables where they are there, and the level of the log is none. -/
structure Toml.Grouped (v : Toml) : Prop where
  groups : ∀ group ∈ groupNames, ∀ x ∈ v.get? group, x.isTable = true
  level : ∀ x ∈ v.at? "log" "level", x.isTable = false

/-- Whether a value is written as a date. -/
def Toml.isMoment : Toml → Bool
  | .date _ => true
  | _ => false

/-- Whether a value counts as a date in layers. -/
def Toml.isDate (v : Toml) : Bool := v.unmark.any isMoment

/-- Whether a value is a string. -/
def Toml.isString : Toml → Bool
  | .str _ => true
  | _ => false

/-- Whether a value counts as a text in layers. -/
def Toml.isText (v : Toml) : Bool := v.isString || v.isDate

/-- The kinds of values that settings have. -/
inductive ValueKind where
  | level
  | text
  | texts
  | word
  deriving DecidableEq, Repr

namespace ValueKind

/-- Whether a value is of a kind, dates counting as texts. -/
def admits : ValueKind → Toml → Bool
  | .level, .str s => (LogLevel.ofName? s).isSome
  | .text, v => v.isText
  | .texts, .arr items => items.all isText
  | .word, .int n => 0 ≤ n ∧ n ≤ 4294967295
  | _, _ => false

/-- The values inside a value of a kind that are texts. -/
def textsOf : ValueKind → Toml → List Toml
  | .text, v => [v]
  | .texts, .arr items => items
  | _, _ => []

end ValueKind

/-- A key of a group, and the kind of its value. -/
structure KnownKey where
  group : String
  key : String
  kind : ValueKind

/-- The keys that have a meaning. -/
def knownKeys : List KnownKey :=
  [⟨"log", "level", .level⟩, ⟨"log", "file", .text⟩, ⟨"server", "command", .text⟩,
    ⟨"server", "args", .texts⟩, ⟨"diagnostics", "source", .text⟩,
    ⟨"diagnostics", "parse_error_width", .word⟩]

/-- The known keys that a document has have values of their kinds, dates counting as texts. -/
def Toml.OfKind (v : Toml) : Prop :=
  ∀ k ∈ knownKeys, ∀ x ∈ v.at? k.group k.key, k.kind.admits x = true

/-- No text under a known key is a date. -/
def Toml.Worded (v : Toml) : Prop :=
  ∀ k ∈ knownKeys, ∀ x ∈ v.at? k.group k.key, ∀ text ∈ k.kind.textsOf x, text.isDate = false

instance (v : Toml) : Decidable v.Grouped :=
  decidable_of_iff
    ((∀ group ∈ groupNames, ∀ x ∈ v.get? group, x.isTable = true) ∧
      ∀ x ∈ v.at? "log" "level", x.isTable = false)
    ⟨fun h => ⟨h.1, h.2⟩, fun h => ⟨h.groups, h.level⟩⟩

instance (v : Toml) : Decidable v.OfKind :=
  inferInstanceAs (Decidable (∀ k ∈ knownKeys, ∀ x ∈ v.at? k.group k.key, k.kind.admits x = true))

instance (v : Toml) : Decidable v.Worded :=
  inferInstanceAs (Decidable (∀ k ∈ knownKeys, ∀ x ∈ v.at? k.group k.key,
    ∀ text ∈ k.kind.textsOf x, text.isDate = false))

/-! ### What a reading finds -/

/-- The settings that a reading finds in the values of the known keys, each with its default. -/
@[mk_iff]
structure Settings.ReadAs (s : Settings) (r : Reading) (value : String → String → Option Toml) :
    Prop where
  level : (value "log" "level").elim (some .info) Reading.level = some s.log.level
  file : (value "log" "file").elim (some none) (fun x => (r.text x).map some) = some s.log.file
  command : (value "server" "command").elim (some none) (fun x => (r.text x).map some) =
    some s.server.command
  args : (value "server" "args").elim (some []) r.texts = some s.server.args
  source : (value "diagnostics" "source").elim (some "webdsl") r.text = some s.diagnostics.source
  width : (value "diagnostics" "parse_error_width").elim (some 200) Reading.word32 =
    some s.diagnostics.width

namespace Reading

variable {r : Reading} {inner : List (String × Toml)}

/-- Two values that are read one after the other make up what has them as its parts. -/
theorem bind_pair_eq_some_iff {α β γ : Type} {x : Option α} {y : Option β} {make : α → β → γ}
    {first : γ → α} {second : γ → β} (hfirst : ∀ a b, first (make a b) = a)
    (hsecond : ∀ a b, second (make a b) = b) (hmake : ∀ c, make (first c) (second c) = c) {c : γ} :
    (x.bind fun a => y.bind fun b => some (make a b)) = some c ↔
      x = some (first c) ∧ y = some (second c) := by
  simp only [Option.bind_eq_some_iff]
  constructor
  · rintro ⟨a, ha, b, hb, h⟩
    obtain rfl := Option.some.inj h
    rw [hfirst, hsecond]
    exact ⟨ha, hb⟩
  · rintro ⟨ha, hb⟩
    exact ⟨first c, ha, second c, hb, by rw [hmake]⟩

/-- The log group is read key by key, and a key that is missing has its default. -/
theorem log_eq_some_iff {s : LogSettings} :
    r.log (.table inner) = some s ↔
      (inner.lookup "level").elim (some .info) Reading.level = some s.level ∧
        (inner.lookup "file").elim (some none) (fun x => (r.text x).map some) = some s.file := by
  rw [Reading.log, Reading.group, Option.bind_eq_bind, Option.bind_some]
  simp only [GroupValues.read_named]
  exact bind_pair_eq_some_iff (fun _ _ => rfl) (fun _ _ => rfl) fun _ => rfl

/-- The server group is read key by key, and a key that is missing has its default. -/
theorem server_eq_some_iff {s : ServerSettings} :
    r.server (.table inner) = some s ↔
      (inner.lookup "command").elim (some none) (fun x => (r.text x).map some) = some s.command ∧
        (inner.lookup "args").elim (some []) r.texts = some s.args := by
  rw [Reading.server, Reading.group, Option.bind_eq_bind, Option.bind_some]
  simp only [GroupValues.read_named]
  exact bind_pair_eq_some_iff (fun _ _ => rfl) (fun _ _ => rfl) fun _ => rfl

/-- The diagnostics group is read key by key, and a key that is missing has its default. -/
theorem diagnostics_eq_some_iff {s : DiagnosticsSettings} :
    r.diagnostics (.table inner) = some s ↔
      (inner.lookup "source").elim (some "webdsl") r.text = some s.source ∧
        (inner.lookup "parse_error_width").elim (some 200) Reading.word32 = some s.width := by
  rw [Reading.diagnostics, Reading.group, Option.bind_eq_bind, Option.bind_some]
  simp only [GroupValues.read_named]
  exact bind_pair_eq_some_iff (fun _ _ => rfl) (fun _ _ => rfl) fun _ => rfl

/-- A group that is missing is read as an empty one. -/
theorem exists_inner {es : List (String × Toml)} {group : String}
    (hgroup : ∀ x, es.lookup group = some x → x.isTable = true) :
    ∃ inner, (∀ key, inner.lookup key = (Toml.table es).at? group key) ∧
      ∀ {α : Type} (whenAbsent : α) (readGroup : Toml → Option α),
        readGroup (.table []) = some whenAbsent →
          (es.lookup group).elim (some whenAbsent) readGroup = readGroup (.table inner) := by
  cases hlookup : es.lookup group with
  | none =>
    refine ⟨[], fun key => ?_, fun _ _ hempty => hempty.symm⟩
    rw [Toml.at?, Toml.get?, hlookup]
    rfl
  | some x =>
    obtain ⟨inner, rfl⟩ := exists_of_isTable (hgroup x hlookup)
    refine ⟨inner, fun key => ?_, fun _ _ _ => rfl⟩
    rw [Toml.at?, Toml.get?, hlookup]
    rfl

/-- **Readings.** A document whose groups are tables is read key by key. -/
theorem settings_eq_some_iff {es : List (String × Toml)} {s : Settings}
    (hgroups : ∀ group ∈ groupNames, ∀ x, es.lookup group = some x → x.isTable = true) :
    r.settings (.table es) = some s ↔ s.ReadAs r (Toml.table es).at? := by
  -- the entries of the three groups, none for a group that is missing
  obtain ⟨logs, hlogs, hlog⟩ := exists_inner (hgroups "log" (by decide))
  obtain ⟨servers, hservers, hserver⟩ := exists_inner (hgroups "server" (by decide))
  obtain ⟨others, hothers, hdiagnostics⟩ := exists_inner (hgroups "diagnostics" (by decide))
  rw [Reading.settings, Reading.group, Option.bind_eq_bind, Option.bind_some]
  simp only [GroupValues.read_named, Option.bind_eq_bind, Option.bind_eq_some_iff]
  rw [hlog {} r.log rfl, hserver {} r.server rfl, hdiagnostics {} r.diagnostics rfl]
  simp only [log_eq_some_iff, server_eq_some_iff, diagnostics_eq_some_iff, hlogs, hservers,
    hothers]
  constructor
  · rintro ⟨log, hlog, server, hserver, diagnostics, hdiagnostics, h⟩
    obtain rfl := Option.some.inj h
    exact ⟨hlog.1, hlog.2, hserver.1, hserver.2, hdiagnostics.1, hdiagnostics.2⟩
  · intro h
    exact ⟨s.log, ⟨h.level, h.file⟩, s.server, ⟨h.command, h.args⟩, s.diagnostics,
      ⟨h.source, h.width⟩, rfl⟩

/-- Whether a reading finds a value of a kind. -/
def reads (r : Reading) : ValueKind → Toml → Bool
  | .level, v => (level v).isSome
  | .text, v => (r.text v).isSome
  | .texts, v => (r.texts v).isSome
  | .word, v => (word32 v).isSome

end Reading

/-- A value that is optional can be read when it is missing or can be read itself. -/
theorem exists_elim_eq_some_iff {α : Type} {value : Option Toml} {whenAbsent : α}
    {readItem : Toml → Option α} :
    (∃ a, value.elim (some whenAbsent) readItem = some a) ↔
      ∀ x ∈ value, (readItem x).isSome = true := by
  cases value with
  | none => simp
  | some x => simp [Option.isSome_iff_exists]

/-- A reading finds settings exactly when it finds a value under every known key that is there. -/
theorem exists_readAs_iff {r : Reading} {value : String → String → Option Toml} :
    (∃ s : Settings, s.ReadAs r value) ↔
      ∀ k ∈ knownKeys, ∀ x ∈ value k.group k.key, r.reads k.kind x = true := by
  have hkeys : (∀ k ∈ knownKeys, ∀ x ∈ value k.group k.key, r.reads k.kind x = true) ↔
      (∃ a, (value "log" "level").elim (some .info) Reading.level = some a) ∧
      (∃ a, (value "log" "file").elim (some none) (fun x => (r.text x).map some) = some a) ∧
      (∃ a, (value "server" "command").elim (some none) (fun x => (r.text x).map some) = some a) ∧
      (∃ a, (value "server" "args").elim (some []) r.texts = some a) ∧
      (∃ a, (value "diagnostics" "source").elim (some "webdsl") r.text = some a) ∧
      ∃ a, (value "diagnostics" "parse_error_width").elim (some 200) Reading.word32 = some a := by
    simp only [exists_elim_eq_some_iff, knownKeys, List.forall_mem_cons, Reading.reads,
      Option.isSome_map, List.not_mem_nil, false_imp_iff, implies_true, and_true]
  rw [hkeys]
  constructor
  · rintro ⟨s, h⟩
    exact ⟨⟨_, h.level⟩, ⟨_, h.file⟩, ⟨_, h.command⟩, ⟨_, h.args⟩, ⟨_, h.source⟩, ⟨_, h.width⟩⟩
  · rintro ⟨⟨level, hlevel⟩, ⟨file, hfile⟩, ⟨command, hcommand⟩, ⟨args, hargs⟩,
      ⟨source, hsource⟩, ⟨width, hwidth⟩⟩
    exact ⟨⟨⟨level, file⟩, ⟨command, args⟩, ⟨source, width⟩⟩, hlevel, hfile, hcommand, hargs,
      hsource, hwidth⟩

/-! ### Kinds of values -/

/-- All values of a list can be read exactly when each of them can. -/
theorem isSome_mapM {α β : Type} (f : α → Option β) (l : List α) :
    (l.mapM f).isSome = l.all fun a => (f a).isSome := by
  induction l with
  | nil => rfl
  | cons a l ih =>
    rw [List.mapM_cons, List.all_cons, ← ih]
    cases f a with
    | none => rfl
    | some b => cases l.mapM f <;> rfl

/-- A string is no date. -/
theorem isDate_of_isString {v : Toml} (h : v.isString = true) : v.isDate = false := by
  cases v with
  | str s => rfl
  | _ => cases h

/-- The strings are the texts that are no dates. -/
theorem isString_iff {v : Toml} : v.isString = true ↔ v.isText = true ∧ v.isDate = false := by
  unfold Toml.isText
  rw [Bool.or_eq_true]
  constructor
  · intro h
    exact ⟨.inl h, isDate_of_isString h⟩
  · rintro ⟨h | h, hdate⟩
    · exact h
    · rw [h] at hdate
      cases hdate

/-- A document that stands alone reads only strings as texts. -/
theorem isSome_text_document (v : Toml) : (Reading.document.text v).isSome = v.isString := by
  cases v <;> rfl

/-- A number is read when it fits into 32 bits. -/
theorem isSome_word32 (v : Toml) : (Reading.word32 v).isSome = ValueKind.word.admits v := by
  cases v with
  | int n =>
    show (if 0 ≤ n ∧ n ≤ 4294967295 then some (UInt32.ofNat n.toNat) else none).isSome = _
    by_cases h : 0 ≤ n ∧ n ≤ 4294967295 <;> simp [ValueKind.admits, h]
  | _ => rfl

/-- Apart from tables, a level is read when it is the name of one. -/
theorem isSome_level {v : Toml} (h : v.isTable = false) :
    (Reading.level v).isSome = ValueKind.level.admits v := by
  cases v with
  | table entries => cases h
  | _ => rfl

/-- On its own, a document is read where values are of their kinds and no text is a date. -/
theorem reads_document_iff {kind : ValueKind} {v : Toml} (h : kind = .level → v.isTable = false) :
    Reading.document.reads kind v = true ↔
      kind.admits v = true ∧ ∀ text ∈ kind.textsOf v, text.isDate = false := by
  cases kind with
  | level =>
    show (Reading.level v).isSome = true ↔ _
    rw [isSome_level (h rfl)]
    simp [ValueKind.textsOf]
  | text =>
    show (Reading.document.text v).isSome = true ↔ _
    rw [isSome_text_document, isString_iff]
    simp [ValueKind.textsOf, ValueKind.admits]
  | texts =>
    cases v with
    | arr items =>
      show (items.mapM Reading.document.text).isSome = true ↔ items.all isText = true ∧ _
      rw [isSome_mapM]
      simp only [isSome_text_document, List.all_eq_true, isString_iff]
      exact forall₂_and
    | _ => simp [Reading.reads, Reading.texts, ValueKind.admits]
  | word =>
    show (Reading.word32 v).isSome = true ↔ _
    rw [isSome_word32]
    simp [ValueKind.textsOf]

/-- A table becomes a date or stays a table. -/
theorem date_or_table_of_unmark {entries : List (String × Toml)} {w : Toml}
    (h : (Toml.table entries).unmark = some w) :
    (∃ text, w = .date text) ∨ ∃ entries', w = .table entries' := by
  cases hmarked : (Toml.table entries).isMarked with
  | true => exact .inl (exists_date_of_unmark hmarked h)
  | false =>
    rw [unmark_table hmarked] at h
    obtain ⟨entries', -, rfl⟩ := Option.map_eq_some_iff.mp h
    exact .inr ⟨entries', rfl⟩

/-- An array stays an array, with its items read for marks. -/
theorem unmark_arr {items : List Toml} {w : Toml} (h : (Toml.arr items).unmark = some w) :
    ∃ items', unmarkItems items = some items' ∧ w = .arr items' := by
  rw [unmark] at h
  obtain ⟨items', hitems, h⟩ := Option.bind_eq_some_iff.mp h
  exact ⟨items', hitems, (Option.some.inj h).symm⟩

/-- A value counts as a date exactly when it has become one. -/
theorem isDate_of_unmark {v w : Toml} (h : v.unmark = some w) : v.isDate = w.isMoment := by
  rw [Toml.isDate, h]
  rfl

/-- In layers a text may also be a date, or a table that counts as one. -/
theorem isSome_text_layers {v w : Toml} (h : v.unmark = some w) :
    (Reading.layers.text w).isSome = v.isText := by
  unfold Toml.isText
  rw [isDate_of_unmark h]
  cases v with
  | arr items =>
    obtain ⟨items', -, rfl⟩ := unmark_arr h
    rfl
  | table entries =>
    obtain ⟨text, rfl⟩ | ⟨entries', rfl⟩ := date_or_table_of_unmark h <;> rfl
  | _ =>
    obtain rfl := Option.some.inj h
    rfl

/-- The same for the items of an array. -/
theorem all_isText_of_unmarkItems {items items' : List Toml}
    (h : unmarkItems items = some items') :
    (items'.all fun w => (Reading.layers.text w).isSome) = items.all isText := by
  induction items generalizing items' with
  | nil =>
    obtain rfl := Option.some.inj h
    rfl
  | cons item rest ih =>
    rw [unmarkItems] at h
    obtain ⟨item', hitem, h⟩ := Option.bind_eq_some_iff.mp h
    obtain ⟨rest', hrest, h⟩ := Option.bind_eq_some_iff.mp h
    obtain rfl := Option.some.inj h
    rw [List.all_cons, List.all_cons, isSome_text_layers hitem, ih hrest]

/-- In layers, a document is read where values are of their kinds. -/
theorem reads_layers_of_unmark {kind : ValueKind} {v w : Toml} (h : v.unmark = some w)
    (hlevel : kind = .level → v.isTable = false) :
    Reading.layers.reads kind w = kind.admits v := by
  cases v with
  | arr items =>
    obtain ⟨items', hitems, rfl⟩ := unmark_arr h
    cases kind with
    | text => exact isSome_text_layers h
    | texts =>
      show (items'.mapM Reading.layers.text).isSome = items.all isText
      rw [isSome_mapM, all_isText_of_unmarkItems hitems]
    | _ => rfl
  | table entries =>
    cases kind with
    | level => cases hlevel rfl
    | text => exact isSome_text_layers h
    | _ => obtain ⟨text, rfl⟩ | ⟨entries', rfl⟩ := date_or_table_of_unmark h <;> rfl
  | int n =>
    -- what is neither a list nor a table has no marks inside
    obtain rfl := Option.some.inj h
    cases kind with
    | word => exact isSome_word32 (.int n)
    | _ => rfl
  | _ =>
    obtain rfl := Option.some.inj h
    cases kind <;> rfl

/-! ### Both readings of a document -/

/-- Where a value is found below what a layer gives, reading it gives the default. -/
theorem elim_or_eq {α : Type} {value lower : Option Toml} {whenAbsent : α}
    {readItem : Toml → Option α} (h : lower.elim (some whenAbsent) readItem = some whenAbsent) :
    (value.or lower).elim (some whenAbsent) readItem =
      value.elim (some whenAbsent) readItem := by
  cases value with
  | none => exact h
  | some x => rfl

section Defaults

variable {es : List (String × Toml)} (hdistinct : (Toml.table es).Distinct)
  (hgroups : ∀ group ∈ groupNames, ∀ x, es.lookup group = some x → x.isTable = true)
include hdistinct hgroups

/-- The values of a layer, and those below it where it gives none. -/
theorem at?_overlayEntries {base lower : List (String × Toml)} {group : String}
    (hgroup : group ∈ groupNames) (hbase : base.lookup group = some (.table lower))
    (hlower : ∀ entry ∈ lower, entry.2.isTable = false) (key : String) :
    (Toml.table (overlayEntries base es)).at? group key =
      ((Toml.table es).at? group key).or (lower.lookup key) := by
  obtain ⟨upper, hkeys, hlookup, hupper⟩ := exists_group hdistinct hbase
    fun x hx => exists_of_isTable (hgroups group hgroup x hx)
  rw [Toml.at?, Toml.get?, hlookup, ← hupper]
  refine lookup_overlayEntries_of_lower hkeys fun entries h => ?_
  cases hlower _ (mem_of_lookup h)

/-- **Defaults.** What is read of a layer over the defaults is what is read of the layer alone. -/
theorem readAs_overlay {s : Settings} :
    s.ReadAs .layers (Toml.table (overlayEntries (Settings.entries {}) es)).at? ↔
      s.ReadAs .layers (Toml.table es).at? := by
  have hlog := @at?_overlayEntries es hdistinct hgroups (Settings.entries {})
    (LogSettings.entries {}) "log" (by decide) rfl (by decide)
  have hserver := @at?_overlayEntries es hdistinct hgroups (Settings.entries {})
    (ServerSettings.entries {}) "server" (by decide) rfl (by decide)
  have hdiagnostics := @at?_overlayEntries es hdistinct hgroups (Settings.entries {})
    (DiagnosticsSettings.entries {}) "diagnostics" (by decide) rfl (by decide)
  -- left over for each key: the default that stands below is read as the default that is filled in
  rw [Settings.readAs_iff, Settings.readAs_iff, hlog, hlog, hserver, hserver, hdiagnostics,
    hdiagnostics, elim_or_eq, elim_or_eq, elim_or_eq, elim_or_eq, elim_or_eq, elim_or_eq]
  all_goals rfl

/-- The groups of a layer stay tables over the defaults. -/
theorem isTable_of_overlayEntries : ∀ group ∈ groupNames, ∀ x,
    (overlayEntries (Settings.entries {}) es).lookup group = some x → x.isTable = true := by
  intro group hgroup x hx
  have hbase : ∃ lower, (Settings.entries {}).lookup group = some (.table lower) := by
    obtain rfl | rfl | rfl : group = "log" ∨ group = "server" ∨ group = "diagnostics" := by
      simpa [groupNames] using hgroup
    · exact ⟨_, rfl⟩
    · exact ⟨_, rfl⟩
    · exact ⟨_, rfl⟩
  obtain ⟨lower, hlower⟩ := hbase
  obtain ⟨upper, -, hlookup, -⟩ := exists_group hdistinct hlower
    fun x hx => exists_of_isTable (hgroups group hgroup x hx)
  rw [hlookup] at hx
  obtain rfl := Option.some.inj hx
  rfl

end Defaults

/-- Only the values under the known groups matter. -/
theorem readAs_congr {s : Settings} {r : Reading} {value value' : String → String → Option Toml}
    (h : ∀ group ∈ groupNames, ∀ key, value group key = value' group key) :
    s.ReadAs r value ↔ s.ReadAs r value' := by
  have hlog := h "log" (by decide)
  have hserver := h "server" (by decide)
  have hdiagnostics := h "diagnostics" (by decide)
  rw [Settings.readAs_iff, Settings.readAs_iff, hlog, hlog, hserver, hserver, hdiagnostics,
    hdiagnostics]

/-! ### What is read on its own is read in layers -/

/-- What is read as a text is that string. -/
theorem eq_str_of_text {v : Toml} {text : String} (h : Reading.document.text v = some text) :
    v = .str text := by
  cases v with
  | str s => rw [Option.some.inj h]
  | _ => cases h

/-- What is read as texts is an array of those strings. -/
theorem eq_texts_of_texts {v : Toml} {texts : List String}
    (h : Reading.document.texts v = some texts) : v = .arr (texts.map .str) := by
  cases v with
  | arr items =>
    rw [Reading.texts] at h
    congr 1
    induction items generalizing texts with
    | nil =>
      obtain rfl := Option.some.inj h
      rfl
    | cons item items ih =>
      rw [List.mapM_cons] at h
      obtain ⟨text, htext, h⟩ := Option.bind_eq_some_iff.mp h
      obtain ⟨rest, hrest, h⟩ := Option.bind_eq_some_iff.mp h
      obtain rfl := Option.some.inj h
      rw [List.map_cons, eq_str_of_text htext, ih hrest]
  | _ => cases h

/-- A reading that finds only values without marks is a reading of the document with its marks read.
    -/
theorem elim_bind_unmark {α : Type} {value : Option Toml} {whenAbsent a : α}
    {first second : Toml → Option α}
    (hsame : ∀ x ∈ value, ∀ b, first x = some b → x.unmark = some x ∧ second x = some b)
    (h : value.elim (some whenAbsent) first = some a) :
    (value.bind Toml.unmark).elim (some whenAbsent) second = some a := by
  cases value with
  | none => exact h
  | some x =>
    obtain ⟨hunmark, hsecond⟩ := hsame x rfl a h
    rw [Option.bind_some, hunmark]
    exact hsecond

/-- Settings that are found in a document on its own are also found in layers. -/
theorem Settings.ReadAs.unmark {s : Settings} {value : String → String → Option Toml}
    (h : s.ReadAs .document value) (hlevel : ∀ x ∈ value "log" "level", x.isTable = false) :
    s.ReadAs .layers fun group key => (value group key).bind Toml.unmark := by
  have htext : ∀ x b, (Reading.document.text x).map some = some b →
      x.unmark = some x ∧ (Reading.layers.text x).map some = some b := by
    intro x b hb
    obtain ⟨text, hx, rfl⟩ := Option.map_eq_some_iff.mp hb
    rw [eq_str_of_text hx]
    exact ⟨rfl, rfl⟩
  refine ⟨elim_bind_unmark ?_ h.level, elim_bind_unmark (fun x _ => htext x) h.file,
    elim_bind_unmark (fun x _ => htext x) h.command, elim_bind_unmark ?_ h.args,
    elim_bind_unmark ?_ h.source, elim_bind_unmark ?_ h.width⟩
  · -- only the name of a level is left: a table, which can name one too, is ruled out
    intro x hx b hb
    cases x with
    | table entries => cases hlevel _ hx
    | str name => exact ⟨rfl, hb⟩
    | _ => cases hb
  · intro x _ b hb
    rw [eq_texts_of_texts hb]
    exact ⟨unmark_texts b, Reading.texts_map_str _ b⟩
  · intro x _ b hb
    rw [eq_str_of_text hb]
    exact ⟨rfl, rfl⟩
  · intro x _ b hb
    cases x with
    | int n => exact ⟨rfl, hb⟩
    | _ => cases hb

/-! ### When both readings agree -/

/-- Every known key belongs to a known group. -/
theorem knownKeys_group : ∀ k ∈ knownKeys, k.group ∈ groupNames := by decide

/-- Only one key holds a level. -/
theorem knownKeys_level : ∀ k ∈ knownKeys, k.kind = .level → k.group = "log" ∧ k.key = "level" := by
  decide

/-- A level is not written as a table, by the shape of grouped documents. -/
theorem Toml.Grouped.isTable_eq_false {v x : Toml} {k : KnownKey} (h : v.Grouped)
    (hk : k ∈ knownKeys) (hx : x ∈ v.at? k.group k.key) (hkind : k.kind = .level) :
    x.isTable = false := by
  obtain ⟨hgroup, hkey⟩ := knownKeys_level k hk hkind
  rw [hgroup, hkey] at hx
  exact h.level x hx

/-- On its own, a document is read when the known keys have values of their kinds and no text is a
    date. -/
theorem exists_readAs_document_iff {v : Toml} (hgrouped : v.Grouped) :
    (∃ s : Settings, s.ReadAs .document v.at?) ↔ v.OfKind ∧ v.Worded := by
  have hkey : ∀ k ∈ knownKeys, ∀ x ∈ v.at? k.group k.key,
      (Reading.document.reads k.kind x = true ↔
        k.kind.admits x = true ∧ ∀ text ∈ k.kind.textsOf x, text.isDate = false) :=
    fun k hk x hx => reads_document_iff (hgrouped.isTable_eq_false hk hx)
  rw [exists_readAs_iff]
  constructor
  · intro h
    exact ⟨fun k hk x hx => ((hkey k hk x hx).mp (h k hk x hx)).1,
      fun k hk x hx => ((hkey k hk x hx).mp (h k hk x hx)).2⟩
  · rintro ⟨hkinds, hworded⟩ k hk x hx
    exact (hkey k hk x hx).mpr ⟨hkinds k hk x hx, hworded k hk x hx⟩

/-- In layers, a document whose marks can be read is read when the known keys have values of their
    kinds. -/
theorem exists_readAs_layers_iff {v : Toml} (hgrouped : v.Grouped)
    (hreadable : ∀ group ∈ groupNames, ∀ key, ∀ x ∈ v.at? group key, x.unmark.isSome = true) :
    (∃ s : Settings, s.ReadAs .layers fun group key => (v.at? group key).bind Toml.unmark) ↔
      v.OfKind := by
  rw [exists_readAs_iff]
  refine forall₂_congr fun k hk => ?_
  cases hx : v.at? k.group k.key with
  | none => simp
  | some x =>
    obtain ⟨w, hw⟩ := Option.isSome_iff_exists.mp
      (hreadable k.group (knownKeys_group k hk) k.key x hx)
    have hreads := reads_layers_of_unmark hw (hgrouped.isTable_eq_false hk hx)
    rw [Option.bind_some, hw]
    simp [hreads]

/-- A document whose marks do not count stays a table. -/
theorem exists_unmarkEntries_of_undated {entries : List (String × Toml)}
    (hundated : (Toml.table entries).Undated) :
    ∃ entries', unmarkEntries entries = some entries' ∧
      (Toml.table entries).unmark = some (.table entries') := by
  obtain ⟨w, hw⟩ := Option.isSome_iff_exists.mp hundated.readable
  have hunmark := unmark_table hundated.document
  rw [hw] at hunmark
  obtain ⟨entries', hentries, rfl⟩ := Option.map_eq_some_iff.mp hunmark.symm
  exact ⟨entries', hentries, hw⟩

section Undated

variable {entries : List (String × Toml)} (hgrouped : (Toml.table entries).Grouped)
  (hundated : (Toml.table entries).Undated)
include hgrouped hundated

/-- So do its groups. -/
theorem groups_of_undated : ∀ group ∈ groupNames, ∀ x, entries.lookup group = some x →
    ∃ inner, x = .table inner ∧ x.isMarked = false := by
  intro group hgroup x hx
  obtain ⟨inner, rfl⟩ := exists_of_isTable (hgrouped.groups group hgroup x hx)
  exact ⟨inner, rfl, hundated.groups group hgroup _ hx⟩

/-- And every value in its groups has its marks read. -/
theorem isSome_unmark_of_undated : ∀ group ∈ groupNames, ∀ key,
    ∀ x ∈ (Toml.table entries).at? group key, x.unmark.isSome = true := by
  intro group hgroup key x hx
  obtain ⟨entries', hentries, -⟩ := exists_unmarkEntries_of_undated hundated
  obtain ⟨hnone, -⟩ | ⟨inner, inner', hinner, hunmark, -⟩ :=
    group_of_unmark (groups_of_undated hgrouped hundated) hentries hgroup
  · rw [Toml.at?, Toml.get?, hnone] at hx
    cases hx
  · rw [Toml.at?, Toml.get?, hinner] at hx
    obtain ⟨w, hw, -⟩ := exists_lookup_unmarkEntries hunmark hx
    rw [hw]
    rfl

end Undated

namespace Settings

/-- A layer over the defaults gives settings, or it is refused while it is read. -/
theorem layer_ok_or_parse (base : Settings) (text : String) :
    (∃ s, base.layer text = .ok s) ∨ ∃ reason, base.layer text = .error (.parse reason) := by
  unfold layer
  split
  case h_1 => exact .inr ⟨_, rfl⟩
  case h_2 =>
    split
    case h_1 => exact .inr ⟨_, rfl⟩
    case h_2 => exact .inl ⟨_, rfl⟩

/-- **One layer over the defaults** is read key by key. -/
theorem layer_eq_ok_iff {text : String} {v : Toml} {s : Settings}
    (hparse : Toml.parse text = some v) (hgrouped : v.Grouped) (hundated : v.Undated) :
    layer {} text = .ok s ↔
      s.ReadAs .layers fun group key => (v.at? group key).bind Toml.unmark := by
  obtain ⟨entries, rfl⟩ := exists_entries_of_parse hparse
  obtain ⟨entries', hentries, hunmark⟩ := exists_unmarkEntries_of_undated hundated
  have hgroups := groups_of_undated hgrouped hundated
  have htables : ∀ group ∈ groupNames, ∀ x, entries'.lookup group = some x → x.isTable = true := by
    intro group hgroup x hx
    obtain ⟨-, hnone⟩ | ⟨-, inner', -, -, hinner'⟩ := group_of_unmark hgroups hentries hgroup
    · rw [hnone] at hx
      cases hx
    · rw [hinner'] at hx
      obtain rfl := Option.some.inj hx
      rfl
  have hdistinct := (distinct_of_parse hparse).unmark hunmark
  have hread : Reading.layers.settings ((toToml {}).overlay (.table entries')) = some s ↔
      s.ReadAs .layers fun group key => ((Toml.table entries).at? group key).bind Toml.unmark := by
    show Reading.layers.settings (overlay (.table (Settings.entries {})) (.table entries')) =
      some s ↔ _
    rw [overlay, Reading.settings_eq_some_iff (isTable_of_overlayEntries hdistinct htables),
      readAs_overlay hdistinct htables]
    exact readAs_congr fun group hgroup key => at?_unmark hgroups hentries hgroup key
  rw [← hread, layer, hparse, Option.bind_some, hunmark]
  dsimp only
  cases Reading.layers.settings ((toToml {}).overlay (.table entries')) <;> simp

/-- A layer over the defaults gives settings when the known keys have values of their kinds. -/
theorem exists_layer_eq_ok_iff {text : String} {v : Toml} (hparse : Toml.parse text = some v)
    (hgrouped : v.Grouped) (hundated : v.Undated) :
    (∃ s, layer {} text = .ok s) ↔ v.OfKind := by
  simp only [layer_eq_ok_iff hparse hgrouped hundated]
  obtain ⟨entries, rfl⟩ := exists_entries_of_parse hparse
  exact exists_readAs_layers_iff hgrouped (isSome_unmark_of_undated hgrouped hundated)

end Settings

/-- Two outcomes of reading settings that are the same: equal settings, the same broken rule, or a
    parse error each, whatever its reason. -/
inductive SameOutcome : Except SettingsError Settings → Except SettingsError Settings → Prop where
  | ok (s : Settings) : SameOutcome (.ok s) (.ok s)
  | validation (field message : String) :
      SameOutcome (.error (.validation field message)) (.error (.validation field message))
  | parse (reason reason' : String) :
      SameOutcome (.error (.parse reason)) (.error (.parse reason'))

namespace Settings

/-- Violations are reported as errors of validation. -/
theorem exists_validation_of_mem {s : Settings} {e : SettingsError} (h : e ∈ s.violations) :
    ∃ field message, e = .validation field message := by
  rw [violations, List.mem_append, List.mem_append] at h
  obtain (h | h) | h := h
  · rw [sourceViolations] at h
    split at h
    · exact ⟨_, _, List.mem_singleton.mp h⟩
    · cases h
  · rw [widthViolations] at h
    split at h
    · exact ⟨_, _, List.mem_singleton.mp h⟩
    · cases h
  · rw [commandViolations] at h
    split at h
    · split at h
      · exact ⟨_, _, List.mem_singleton.mp h⟩
      · cases h
    · cases h

/-- Settings pass the rules, or break a first one. -/
theorem validated_cases (s : Settings) :
    s.validated = .ok s ∨ ∃ field message, s.validated = .error (.validation field message) := by
  unfold validated
  split
  case h_1 => exact .inl rfl
  case h_2 e rest hviolations =>
    obtain ⟨field, message, rfl⟩ := exists_validation_of_mem (hviolations ▸ List.mem_cons_self)
    exact .inr ⟨field, message, rfl⟩

/-- Validation ends in settings or in an error of validation, and both agree with themselves. -/
theorem sameOutcome_validated (s : Settings) : SameOutcome s.validated s.validated := by
  obtain h | ⟨field, message, h⟩ := s.validated_cases
  · rw [h]
    exact .ok s
  · rw [h]
    exact .validation field message

/-- What the rules say of settings is no parse error. -/
theorem not_sameOutcome_parse (s : Settings) (reason : String) :
    ¬SameOutcome s.validated (.error (.parse reason)) ∧
      ¬SameOutcome (.error (.parse reason)) s.validated := by
  obtain h | ⟨field, message, h⟩ := s.validated_cases
  · rw [h]
    exact ⟨nofun, nofun⟩
  · rw [h]
    exact ⟨nofun, nofun⟩

/-- A document on its own, read and validated. -/
theorem ofText_of_parse {text : String} {v : Toml} (hparse : Toml.parse text = some v)
    (hgrouped : v.Grouped) :
    (∃ s : Settings, s.ReadAs .document v.at? ∧ ofText text = s.validated) ∨
      (¬∃ s : Settings, s.ReadAs .document v.at?) ∧ ofText text = .error wrongKind := by
  obtain ⟨entries, rfl⟩ := exists_entries_of_parse hparse
  have hread := fun s => @Reading.settings_eq_some_iff .document entries s hgrouped.groups
  unfold ofText
  rw [hparse]
  dsimp only
  cases hsettings : Reading.document.settings (.table entries) with
  | some s => exact .inl ⟨s, (hread s).mp hsettings, rfl⟩
  | none =>
    refine .inr ⟨?_, rfl⟩
    rintro ⟨s, hs⟩
    rw [(hread s).mpr hs] at hsettings
    cases hsettings

/-- **Agreement.** A text that is no document, or one whose groups are tables with a level that is
    none, is read on its own as it is read as a layer over the defaults, then validated: the
    settings, the broken rule or the parse error is the same. The exception are documents whose
    known keys all have values of their kinds, dates counting as texts, if one of two things is the
    case and not both: the mark of a date counts in the document, or a text is a date. -/
theorem ofText_agrees_iff {text : String} (h : ∀ v ∈ Toml.parse text, v.Grouped) :
    SameOutcome (ofText text) (layer {} text >>= validated) ↔
      ∀ v ∈ Toml.parse text, v.OfKind → (v.Undated ↔ v.Worded) := by
  cases hparse : Toml.parse text with
  | none =>
    have hdocument : ofText text = .error notToml := by rw [ofText, hparse]
    have hlayer : layer {} text = .error notToml := by rw [layer, hparse]; rfl
    rw [hdocument, hlayer]
    exact iff_of_true (.parse _ _) (by simp)
  | some v =>
    have hgrouped := h v hparse
    have hdocument := exists_readAs_document_iff hgrouped
    simp only [Option.mem_some_iff, forall_eq']
    by_cases hundated : v.Undated
    · have hlayers := exists_layer_eq_ok_iff hparse hgrouped hundated
      obtain ⟨s, hs, htext⟩ | ⟨hnone, htext⟩ := ofText_of_parse hparse hgrouped
      · -- what the document is read as on its own it is read as in layers
        have hlayer := (layer_eq_ok_iff hparse hgrouped hundated).mpr (hs.unmark hgrouped.level)
        rw [htext, hlayer]
        exact iff_of_true s.sameOutcome_validated
          fun _ => iff_of_true hundated (hdocument.mp ⟨s, hs⟩).2
      · -- refused on its own: in layers only a date in the place of a text can still pass
        rw [hdocument] at hnone
        rw [htext]
        obtain ⟨t, hlayer⟩ | ⟨reason, hlayer⟩ := layer_ok_or_parse {} text
        · have hkinds := hlayers.mp ⟨t, hlayer⟩
          rw [hlayer]
          exact iff_of_false (t.not_sameOutcome_parse _).2
            fun hagree => hnone ⟨hkinds, (hagree hkinds).mp hundated⟩
        · have hkinds : ¬v.OfKind := by
            rw [← hlayers, hlayer]
            simp
          rw [hlayer]
          exact iff_of_true (.parse _ _) fun hkinds' => absurd hkinds' hkinds
    · -- a mark that counts: in layers the document is refused, whatever its known keys have
      obtain ⟨reason, hlayer⟩ := layer_of_not_undated {} hparse hundated
      rw [hlayer]
      show SameOutcome (ofText text) (.error (.parse reason)) ↔ _
      obtain ⟨s, hs, htext⟩ | ⟨hnone, htext⟩ := ofText_of_parse hparse hgrouped
      · obtain ⟨hkinds, hworded⟩ := hdocument.mp ⟨s, hs⟩
        rw [htext]
        exact iff_of_false (s.not_sameOutcome_parse reason).1
          fun hagree => hundated ((hagree hkinds).mpr hworded)
      · rw [hdocument] at hnone
        rw [htext]
        refine iff_of_true (.parse _ _) fun hkinds => iff_of_false hundated fun hworded => ?_
        exact hnone ⟨hkinds, hworded⟩

/-- Both readings find a width that breaks a rule; a date under an unknown key does not count. -/
theorem ofText_agrees_iff_width :
    ofText "log.level = \"warn\"\n[diagnostics]\nsince = 1979-05-27\nparse_error_width = 0" =
        .error (.validation "diagnostics.parse_error_width" "must be at least 1") ∧
      SameOutcome
        (ofText "log.level = \"warn\"\n[diagnostics]\nsince = 1979-05-27\nparse_error_width = 0")
        (layer {} "log.level = \"warn\"\n[diagnostics]\nsince = 1979-05-27\nparse_error_width = 0"
          >>= validated) :=
  ⟨by decide +kernel, (ofText_agrees_iff (by decide +kernel)).mpr (by decide +kernel)⟩

/-- A date in the place of a text is refused on its own, and counts as its text in layers. -/
theorem ofText_disagrees_on_date :
    (∀ v ∈ Toml.parse "[diagnostics]\nsource = 1979-05-27", v.Grouped) ∧
      ofText "[diagnostics]\nsource = 1979-05-27" = .error wrongKind ∧
      (layer {} "[diagnostics]\nsource = 1979-05-27" >>= validated) =
        .ok { diagnostics := { source := "1979-05-27" } } ∧
      ¬SameOutcome (ofText "[diagnostics]\nsource = 1979-05-27")
        (layer {} "[diagnostics]\nsource = 1979-05-27" >>= validated) := by
  have hdocument : ofText "[diagnostics]\nsource = 1979-05-27" = .error wrongKind := by
    decide +kernel
  have hlayer : (layer {} "[diagnostics]\nsource = 1979-05-27" >>= validated) =
      .ok { diagnostics := { source := "1979-05-27" } } := by
    decide +kernel
  refine ⟨by decide +kernel, hdocument, hlayer, ?_⟩
  rw [hdocument, hlayer]
  nofun

end Settings

end ServiceLang
