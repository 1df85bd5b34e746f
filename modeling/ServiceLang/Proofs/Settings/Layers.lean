import Mathlib.Data.List.Forall2
import Mathlib.Tactic.MkIffOfInductiveProp
import ServiceLang.Proofs.Toml.Distinct
import ServiceLang.Proofs.Toml.Equality
import ServiceLang.Proofs.Toml.Marked
import ServiceLang.Proofs.Toml.Overlay
import ServiceLang.Settings.Toml

namespace ServiceLang

open Toml

/-!
# Settings in layers

Documents are laid over settings one after another.

* `Layer`, `Layer.GivenBy`: the settings that a document gives, with each value of its kind;
* `Settings.under`: each setting as the last layer that has it says, else as it was;
* `Toml.Undated`: no table of the document that counts takes part as a date;
* `Settings.layer_of_undated`, `Settings.layer_of_not_undated`: one layer, and a document one of
  whose marks counts, which is refused;
* `Settings.foldlM_layer`: any number of layers.
-/

/-- The value under a key of a group. -/
def Toml.at? (v : Toml) (group key : String) : Option Toml := (v.get? group).bind (Toml.get? key)

/-- The settings that a layer has. -/
structure Layer where
  level : Option LogLevel := none
  file : Option String := none
  command : Option String := none
  args : Option (List String) := none
  source : Option String := none
  width : Option UInt32 := none
  deriving DecidableEq, Repr

/-- The names of the groups of settings. -/
def groupNames : List String := ["log", "server", "diagnostics"]

/-- A document that has the settings of a layer: its groups are tables, and under each known key
    there is a value of its kind, or nothing. Other keys and tables do not count. -/
@[mk_iff]
structure Layer.GivenBy (l : Layer) (v : Toml) : Prop where
  groups : ∀ group ∈ groupNames, ∀ x ∈ v.get? group, x.isTable = true
  level : v.at? "log" "level" = l.level.map fun level => .str level.name
  file : v.at? "log" "file" = l.file.map .str
  command : v.at? "server" "command" = l.command.map .str
  args : v.at? "server" "args" = l.args.map fun args => .arr (args.map .str)
  source : v.at? "diagnostics" "source" = l.source.map .str
  width : v.at? "diagnostics" "parse_error_width" = l.width.map fun width => .int width.toNat

/-- The settings with one layer over them. -/
def Settings.overlaid (base : Settings) (l : Layer) : Settings where
  log := { level := l.level.getD base.log.level, file := l.file.or base.log.file }
  server := { command := l.command.or base.server.command, args := l.args.getD base.server.args }
  diagnostics :=
    { source := l.source.getD base.diagnostics.source
      width := l.width.getD base.diagnostics.width }

/-- What the last of some layers that has a setting says. -/
def lastGiven {α : Type} (setting : Layer → Option α) (layers : List Layer) : Option α :=
  (layers.filterMap setting).getLast?

/-- The settings under layers: each setting has the value of the last layer that has it, and
    stays where none has it. -/
def Settings.under (base : Settings) (layers : List Layer) : Settings where
  log :=
    { level := (lastGiven Layer.level layers).getD base.log.level
      file := (lastGiven Layer.file layers).or base.log.file }
  server :=
    { command := (lastGiven Layer.command layers).or base.server.command
      args := (lastGiven Layer.args layers).getD base.server.args }
  diagnostics :=
    { source := (lastGiven Layer.source layers).getD base.diagnostics.source
      width := (lastGiven Layer.width layers).getD base.diagnostics.width }

/-- The document takes part in layers as it is written: every marked table in it says a date, and
    neither the document itself nor one of its groups is marked. -/
@[mk_iff]
structure Toml.Undated (v : Toml) : Prop where
  readable : v.unmark.isSome
  document : v.isMarked = false
  groups : ∀ group ∈ groupNames, ∀ x ∈ v.get? group, x.isMarked = false

instance (l : Layer) (v : Toml) : Decidable (l.GivenBy v) :=
  decidable_of_iff _ (Layer.givenBy_iff l v).symm

instance (v : Toml) : Decidable v.Undated := decidable_of_iff _ (Toml.undated_iff v).symm

/-! ### Reading back -/

/-- The entries of the log's group. -/
def LogSettings.entries (s : LogSettings) : List (String × Toml) :=
  ("level", .str s.level.name) :: Toml.entryIfSome "file" s.file

/-- The entries of the server's group. -/
def ServerSettings.entries (s : ServerSettings) : List (String × Toml) :=
  Toml.entryIfSome "command" s.command ++ [("args", .arr (s.args.map .str))]

/-- The entries of the group of diagnostics. -/
def DiagnosticsSettings.entries (s : DiagnosticsSettings) : List (String × Toml) :=
  [("source", .str s.source), ("parse_error_width", .int s.width.toNat)]

/-- The groups of a document with all settings. -/
def Settings.entries (s : Settings) : List (String × Toml) :=
  [("log", .table s.log.entries), ("server", .table s.server.entries),
    ("diagnostics", .table s.diagnostics.entries)]

namespace Reading

theorem level_str (level : LogLevel) : Reading.level (.str level.name) = some level := by
  cases level <;> decide

theorem word32_toNat (width : UInt32) : word32 (.int width.toNat) = some width := by
  have hlt := width.toNat_lt
  rw [word32, if_pos (by omega)]
  simp

theorem texts_map_str (r : Reading) (texts : List String) :
    r.texts (.arr (texts.map .str)) = some texts := by
  rw [Reading.texts]
  induction texts with
  | nil => rfl
  | cons text rest ih =>
    rw [List.map_cons, List.mapM_cons, ih]
    rfl

end Reading

/-- A value that is looked up in a table is read, or has its default. -/
theorem GroupValues.read_named {α : Type} (entries : List (String × Toml)) (index : Nat)
    (key : String) (readItem : Toml → Option α) (whenAbsent : α) (whenCut : Option α) :
    (GroupValues.named entries).read index key readItem whenAbsent whenCut =
      (entries.lookup key).elim (some whenAbsent) readItem := by
  rw [GroupValues.read]
  cases entries.lookup key <;> rfl

/-! ### One layer -/

/-- What a group of settings looks like with the layer's entries over it. -/
theorem exists_group {base es lower : List (String × Toml)} {group : String}
    (hdistinct : (Toml.table es).Distinct) (hbase : base.lookup group = some (.table lower))
    (hgroup : ∀ x, es.lookup group = some x → ∃ entries, x = .table entries) :
    ∃ upper, (upper.map Prod.fst).Nodup ∧
      (overlayEntries base es).lookup group = some (.table (overlayEntries lower upper)) ∧
      ∀ key, upper.lookup key = (Toml.table es).at? group key := by
  cases hdistinct with
  | table hkeys hvalues =>
    cases hlookup : es.lookup group with
    | none =>
      refine ⟨[], List.nodup_nil, ?_, fun key => ?_⟩
      · rw [lookup_overlayEntries_of_none hlookup, hbase, overlayEntries]
      · rw [Toml.at?, Toml.get?, hlookup]
        rfl
    | some x =>
      obtain ⟨upper, rfl⟩ := hgroup x hlookup
      cases hvalues _ (mem_of_lookup hlookup) with
      | table hupper _ =>
        refine ⟨upper, hupper, ?_, fun key => ?_⟩
        · rw [lookup_overlayEntries_of_some hkeys hlookup, hbase, Option.elim_some, overlay]
        · rw [Toml.at?, Toml.get?, hlookup]
          rfl

/-- **One key.** A known key is read as the layer gives it, else as it was, else as its default. -/
theorem read_overlayEntries {lower upper : List (String × Toml)} {key : String} {α β : Type}
    {given : Option α} {write : α → Toml} {readItem : Toml → Option β} (old : Option α)
    (into : α → β) (index : Nat) (whenAbsent : β) (whenCut : Option β)
    (hkeys : (upper.map Prod.fst).Nodup) (hwrite : ∀ a entries, write a ≠ .table entries)
    (hread : ∀ a, readItem (write a) = some (into a))
    (hgiven : upper.lookup key = given.map write) (hold : lower.lookup key = old.map write) :
    (GroupValues.named (overlayEntries lower upper)).read index key readItem whenAbsent whenCut =
      some (((given.or old).map into).getD whenAbsent) := by
  have htable : ∀ entries, upper.lookup key ≠ some (.table entries) := by
    intro entries h
    rw [hgiven] at h
    obtain ⟨a, -, ha⟩ := Option.map_eq_some_iff.mp h
    exact hwrite a entries ha
  rw [GroupValues.read_named, lookup_overlayEntries_of_not_table hkeys htable, hgiven, hold]
  cases given with
  | some a => exact hread a
  | none =>
    cases old with
    | some a => exact hread a
    | none => rfl

section Groups

variable {upper : List (String × Toml)} (hkeys : (upper.map Prod.fst).Nodup)
include hkeys

theorem log_overlayEntries (base : LogSettings) {level : Option LogLevel} {file : Option String}
    (hlevel : upper.lookup "level" = level.map fun level => .str level.name)
    (hfile : upper.lookup "file" = file.map .str) :
    Reading.layers.log (.table (overlayEntries base.entries upper)) =
      some { level := level.getD base.level, file := file.or base.file } := by
  rw [Reading.log, Reading.group, Option.bind_eq_bind, Option.bind_some,
    read_overlayEntries (some base.level) id 0 _ _ hkeys (by simp)
      Reading.level_str hlevel rfl, Option.bind_eq_bind, Option.bind_some,
    read_overlayEntries base.file some 1 _ _ hkeys (by simp) (fun _ => rfl)
      hfile (by rw [LogSettings.entries]; cases base.file <;> rfl)]
  cases level <;> cases file <;> cases base.file <;> rfl

theorem server_overlayEntries (base : ServerSettings) {command : Option String}
    {args : Option (List String)} (hcommand : upper.lookup "command" = command.map .str)
    (hargs : upper.lookup "args" = args.map fun args => .arr (args.map .str)) :
    Reading.layers.server (.table (overlayEntries base.entries upper)) =
      some { command := command.or base.command, args := args.getD base.args } := by
  rw [Reading.server, Reading.group, Option.bind_eq_bind, Option.bind_some,
    read_overlayEntries base.command some 0 _ _ hkeys (by simp) (fun _ => rfl)
      hcommand (by rw [ServerSettings.entries]; cases base.command <;> rfl),
      Option.bind_eq_bind, Option.bind_some,
    read_overlayEntries (some base.args) id 1 _ _ hkeys (by simp)
      (Reading.texts_map_str _) hargs (by rw [ServerSettings.entries]; cases base.command <;> rfl)]
  cases command <;> cases args <;> cases base.command <;> rfl

theorem diagnostics_overlayEntries (base : DiagnosticsSettings) {source : Option String}
    {width : Option UInt32} (hsource : upper.lookup "source" = source.map .str)
    (hwidth : upper.lookup "parse_error_width" = width.map fun width => .int width.toNat) :
    Reading.layers.diagnostics (.table (overlayEntries base.entries upper)) =
      some { source := source.getD base.source, width := width.getD base.width } := by
  rw [Reading.diagnostics, Reading.group, Option.bind_eq_bind, Option.bind_some,
    read_overlayEntries (some base.source) id 0 _ _ hkeys (by simp)
      (fun _ => rfl) hsource rfl, Option.bind_eq_bind, Option.bind_some,
    read_overlayEntries (some base.width) id 1 _ _ hkeys (by simp)
      Reading.word32_toNat hwidth rfl]
  cases source <;> cases width <;> rfl

end Groups

/-- **One layer.** A table with the settings of a layer, laid over settings. -/
theorem settings_overlay {l : Layer} {es : List (String × Toml)} (base : Settings)
    (hdistinct : (Toml.table es).Distinct) (h : l.GivenBy (.table es)) :
    Reading.layers.settings (base.toToml.overlay (.table es)) = some (base.overlaid l) := by
  have hgroup := fun group hgroup lower (hbase : base.entries.lookup group = some (.table lower)) =>
    exists_group hdistinct hbase fun x hx => exists_of_isTable (h.groups group hgroup x hx)
  obtain ⟨logs, hlogKeys, hlog, hlogs⟩ := hgroup "log" (by decide) base.log.entries rfl
  obtain ⟨servers, hserverKeys, hserver, hservers⟩ :=
    hgroup "server" (by decide) base.server.entries rfl
  obtain ⟨others, hotherKeys, hdiagnostics, hothers⟩ :=
    hgroup "diagnostics" (by decide) base.diagnostics.entries rfl
  have htable : base.toToml.overlay (.table es) = .table (overlayEntries base.entries es) := by
    show overlay (.table base.entries) (.table es) = _
    rw [overlay]
  rw [htable, Reading.settings, Reading.group, Option.bind_eq_bind, Option.bind_some,
    GroupValues.read_named, hlog, Option.elim_some,
    log_overlayEntries hlogKeys base.log ((hlogs _).trans h.level) ((hlogs _).trans h.file),
    Option.bind_eq_bind, Option.bind_some, GroupValues.read_named, hserver, Option.elim_some,
    server_overlayEntries hserverKeys base.server ((hservers _).trans h.command)
      ((hservers _).trans h.args),
    Option.bind_eq_bind, Option.bind_some, GroupValues.read_named, hdiagnostics, Option.elim_some,
    diagnostics_overlayEntries hotherKeys base.diagnostics ((hothers _).trans h.source)
      ((hothers _).trans h.width)]
  rfl

/-! ### Marks -/

theorem unmark_texts (texts : List String) :
    (Toml.arr (texts.map .str)).unmark = some (.arr (texts.map .str)) := by
  have hitems : unmarkItems (texts.map .str) = some (texts.map .str) := by
    induction texts with
    | nil => rfl
    | cons text rest ih =>
      rw [List.map_cons, unmarkItems, ih]
      rfl
  rw [unmark, hitems]
  rfl

section Undated

variable {entries entries' : List (String × Toml)}
  (hgroups : ∀ group ∈ groupNames, ∀ x, entries.lookup group = some x →
    ∃ inner, x = .table inner ∧ x.isMarked = false)
  (hentries : unmarkEntries entries = some entries')
include hgroups hentries

/-- A group of a document stays a table, with the same keys. -/
theorem group_of_unmark {group : String} (hgroup : group ∈ groupNames) :
    entries.lookup group = none ∧ entries'.lookup group = none ∨
      ∃ inner inner', entries.lookup group = some (.table inner) ∧
        unmarkEntries inner = some inner' ∧ entries'.lookup group = some (.table inner') := by
  cases hvalue : entries.lookup group with
  | none => exact .inl ⟨rfl, by rw [lookup_unmarkEntries hentries, hvalue]; rfl⟩
  | some value =>
    obtain ⟨inner, rfl, hmarked⟩ := hgroups group hgroup value hvalue
    obtain ⟨w, hunmark, hw⟩ := exists_lookup_unmarkEntries hentries hvalue
    rw [unmark_table hmarked] at hunmark
    obtain ⟨inner', hinner', rfl⟩ := Option.map_eq_some_iff.mp hunmark
    exact .inr ⟨inner, inner', rfl, hinner', hw⟩

/-- Each key of a group has its value, read in the same way. -/
theorem at?_unmark {group : String} (hgroup : group ∈ groupNames) (key : String) :
    (Toml.table entries').at? group key = ((Toml.table entries).at? group key).bind unmark := by
  rw [Toml.at?, Toml.at?, Toml.get?, Toml.get?]
  obtain ⟨hnone, hnone'⟩ | ⟨inner, inner', hinner, hunmark, hinner'⟩ :=
    group_of_unmark hgroups hentries hgroup
  · rw [hnone, hnone']
    rfl
  · rw [hinner, hinner', Option.bind_some, Option.bind_some, Toml.get?, Toml.get?,
      lookup_unmarkEntries hunmark]

end Undated

/-- A document whose marks do not count has the same settings when it takes part in layers. -/
theorem Layer.GivenBy.unmark {l : Layer} {entries : List (String × Toml)}
    (h : l.GivenBy (.table entries)) (hundated : (Toml.table entries).Undated) :
    ∃ entries', (Toml.table entries).unmark = some (.table entries') ∧
      l.GivenBy (.table entries') := by
  obtain ⟨w, hw⟩ := Option.isSome_iff_exists.mp hundated.readable
  have hunmark := unmark_table hundated.document
  rw [hunmark] at hw
  obtain ⟨entries', hentries, rfl⟩ := Option.map_eq_some_iff.mp hw
  have hgroups : ∀ group ∈ groupNames, ∀ x, entries.lookup group = some x →
      ∃ inner, x = .table inner ∧ x.isMarked = false := by
    intro group hgroup x hx
    obtain ⟨inner, rfl⟩ := exists_of_isTable (h.groups group hgroup x hx)
    exact ⟨inner, rfl, hundated.groups group hgroup _ hx⟩
  -- Every setting is two keys deep: unmarking the document unmarks what stands there.
  have hat : ∀ group ∈ groupNames, ∀ key, (Toml.table entries').at? group key =
      ((Toml.table entries).at? group key).bind Toml.unmark :=
    fun group hgroup => at?_unmark hgroups hentries hgroup
  refine ⟨entries', by rw [hunmark, hentries]; rfl, ?_, ?_, ?_, ?_, ?_, ?_, ?_⟩
  · intro group hgroup x hx
    rw [Toml.get?, Option.mem_def] at hx
    obtain ⟨-, hnone⟩ | ⟨-, inner', -, -, hinner'⟩ := group_of_unmark hgroups hentries hgroup
    · rw [hnone] at hx
      cases hx
    · rw [hinner'] at hx
      rw [← Option.some.inj hx, isTable]
  · rw [hat "log" (by decide), h.level]
    cases l.level <;> rfl
  · rw [hat "log" (by decide), h.file]
    cases l.file <;> rfl
  · rw [hat "server" (by decide), h.command]
    cases l.command <;> rfl
  · rw [hat "server" (by decide), h.args]
    cases l.args with
    | none => rfl
    | some args => exact unmark_texts args
  · rw [hat "diagnostics" (by decide), h.source]
    cases l.source <;> rfl
  · rw [hat "diagnostics" (by decide), h.width]
    cases l.width <;> rfl

/-! ### Any number of layers -/

/-- A group that is a date is refused. -/
theorem settings_eq_none_of_date {entries : List (String × Toml)} {group text : String}
    (hgroup : group ∈ groupNames) (h : entries.lookup group = some (.date text)) :
    Reading.layers.settings (.table entries) = none := by
  rw [Reading.settings, Reading.group, Option.bind_eq_bind, Option.bind_some]
  simp only [GroupValues.read_named]
  obtain rfl | rfl | rfl : group = "log" ∨ group = "server" ∨ group = "diagnostics" := by
    simpa [groupNames] using hgroup
  · rw [h]
    rfl
  · rw [h]
    cases (entries.lookup "log").elim (some {}) Reading.layers.log <;> rfl
  · rw [h]
    cases (entries.lookup "log").elim (some {}) Reading.layers.log <;>
    cases (entries.lookup "server").elim (some {}) Reading.layers.server <;> rfl

namespace Settings

/-- A document whose marks do not count is a layer. -/
theorem layer_of_undated {l : Layer} {text : String} {v : Toml} (base : Settings)
    (hparse : Toml.parse text = some v) (hgiven : l.GivenBy v) (hundated : v.Undated) :
    base.layer text = .ok (base.overlaid l) := by
  obtain ⟨entries, rfl⟩ := exists_entries_of_parse hparse
  obtain ⟨entries', hunmark, hgiven'⟩ := hgiven.unmark hundated
  have hdistinct := (distinct_of_parse hparse).unmark hunmark
  rw [layer, hparse, Option.bind_some, hunmark]
  dsimp only
  rw [settings_overlay base hdistinct hgiven']

/-- A document one of whose marks counts is refused. -/
theorem layer_of_not_undated {text : String} {v : Toml} (base : Settings)
    (hparse : Toml.parse text = some v) (hundated : ¬v.Undated) :
    ∃ reason, base.layer text = .error (.parse reason) := by
  obtain ⟨entries, rfl⟩ := exists_entries_of_parse hparse
  rw [layer, hparse, Option.bind_some]
  cases hunmark : (Toml.table entries).unmark with
  | none => exact ⟨_, rfl⟩
  | some w =>
    suffices hnone : Reading.layers.settings (base.toToml.overlay w) = none by
      dsimp only
      rw [hnone]
      exact ⟨_, rfl⟩
    have hdistinct := (distinct_of_parse hparse).unmark hunmark
    cases hmarked : (Toml.table entries).isMarked with
    | true =>
      obtain ⟨date, rfl⟩ := exists_date_of_unmark hmarked hunmark
      rw [overlay_of_not_table _ (by simp)]
      rfl
    | false =>
      -- the document stays a table, so one of its groups is a date
      obtain ⟨group, hgroup, x, hx, hdate⟩ :
          ∃ group ∈ groupNames, ∃ x, entries.lookup group = some x ∧ x.isMarked = true := by
        by_contra hnot
        refine hundated ⟨by rw [hunmark]; rfl, hmarked, fun group hgroup x hx => ?_⟩
        exact Bool.eq_false_iff.mpr fun htrue => hnot ⟨group, hgroup, x, hx, htrue⟩
      rw [unmark_table hmarked] at hunmark
      obtain ⟨entries', hentries, rfl⟩ := Option.map_eq_some_iff.mp hunmark
      obtain ⟨y, hy, hlookup⟩ := exists_lookup_unmarkEntries hentries hx
      obtain ⟨date, rfl⟩ := exists_date_of_unmark hdate hy
      cases hdistinct with
      | table hkeys _ =>
        show Reading.layers.settings (overlay (.table base.entries) (.table entries')) = none
        have hfound : (overlayEntries base.entries entries').lookup group = some (.date date) := by
          rw [lookup_overlayEntries_of_not_table hkeys (by simp [hlookup]), hlookup, Option.some_or]
        rw [overlay, settings_eq_none_of_date hgroup hfound]

/-- The last of several layers that has a setting. -/
theorem lastGiven_cons {α : Type} (setting : Layer → Option α) (l : Layer) (layers : List Layer) :
    lastGiven setting (l :: layers) = (lastGiven setting layers).or (setting l) := by
  rw [lastGiven, lastGiven, List.filterMap_cons]
  cases setting l with
  | none => rw [Option.or_none]
  | some a => rw [List.getLast?_cons]; cases (layers.filterMap setting).getLast? <;> rfl

/-- Layers count from the first one on. -/
theorem under_cons (base : Settings) (l : Layer) (layers : List Layer) :
    base.under (l :: layers) = (base.overlaid l).under layers := by
  simp only [under, overlaid, lastGiven_cons, Option.or_assoc, Option.getD_or]

/-- The text is a document that gives the settings of a layer. -/
def Gives (text : String) (l : Layer) : Prop := ∃ v ∈ Toml.parse text, l.GivenBy v

/-- The document takes part in layers as it is written. -/
def TakesPart (text : String) : Prop := ∀ v ∈ Toml.parse text, v.Undated

instance (text : String) (l : Layer) : Decidable (Gives text l) :=
  inferInstanceAs (Decidable (∃ v ∈ Toml.parse text, l.GivenBy v))

instance (text : String) : Decidable (TakesPart text) :=
  inferInstanceAs (Decidable (∀ v ∈ Toml.parse text, v.Undated))

/-- **Layers.** Documents that give settings are laid over others one after another exactly when
    each of them takes part as it is written, and then every setting has the value of the last one
    that gives it. Otherwise the first one that does not take part so is refused. -/
theorem foldlM_layer (base : Settings) {texts : List String} {layers : List Layer}
    (h : List.Forall₂ Gives texts layers) :
    (texts.foldlM layer base = .ok (base.under layers) ↔ ∀ text ∈ texts, TakesPart text) ∧
      ((∃ text ∈ texts, ¬TakesPart text) →
        ∃ reason, texts.foldlM layer base = .error (.parse reason)) := by
  induction h generalizing base with
  | nil => exact ⟨iff_of_true rfl (by simp), by simp⟩
  | @cons text l texts layers hgives _ ih =>
    obtain ⟨v, hparse, hgiven⟩ := hgives
    have hfirst : TakesPart text ↔ v.Undated := by
      rw [TakesPart, Option.mem_def.mp hparse]
      exact ⟨fun hall => hall v rfl, fun hv w hw => Option.some.inj hw ▸ hv⟩
    rw [List.foldlM_cons, List.forall_mem_cons, List.exists_mem_cons_iff, hfirst, under_cons]
    by_cases hundated : v.Undated
    · rw [layer_of_undated base hparse hgiven hundated]
      obtain ⟨hiff, hrefused⟩ := ih (base.overlaid l)
      refine ⟨hiff.trans (and_iff_right hundated).symm, fun hex => hrefused ?_⟩
      exact hex.resolve_left fun hnot => hnot hundated
    · obtain ⟨reason, hreason⟩ := layer_of_not_undated base hparse hundated
      rw [hreason]
      exact ⟨iff_of_false (by simp [bind, Except.bind]) fun hall => hundated hall.1,
        fun _ => ⟨reason, rfl⟩⟩

/-- Two documents, one with an unknown table and one with an unknown key: the second one replaces
    the arguments as a whole, and leaves the rest of the first one as it is. -/
theorem foldlM_layer_two :
    ["log.level = \"debug\"\nserver.args = [\"-a\", \"-b\"]\n[extra]\nlevel = 1\n",
      "server.args = []\n[diagnostics]\nnote = 1979-05-27\nsource = \"team\"\n"].foldlM layer
        { log := { file := some "a.log" } } =
      .ok
        { log := { level := .debug, file := some "a.log" }
          server := { command := none, args := [] }
          diagnostics := { source := "team", width := 200 } } :=
  (foldlM_layer { log := { file := some "a.log" } }
    (.cons (b := { level := some .debug, args := some ["-a", "-b"] }) (by decide +kernel)
      (.cons (b := { args := some [], source := some "team" }) (by decide +kernel) .nil))).1.mpr
    (by decide +kernel)

/-- A document that gives no settings is refused when its only key is the mark of a date. -/
theorem layer_of_marked_document :
    Gives "\"$__toml_private_datetime\" = \"1979-05-27\"" {} ∧
      Settings.layer {} "\"$__toml_private_datetime\" = \"1979-05-27\"" = .error wrongKind := by
  decide +kernel

end Settings

end ServiceLang
