import ServiceLang.Proofs.Keyed
import ServiceLang.Toml.Parse

namespace ServiceLang

/-!
# Distinct keys

No table of a document that can be read has a key twice.

* `Toml.Distinct`: no table has a key twice, at any depth;
* `TomlNode.Distinct`, `TomlNode.DistinctEntries`: the same of tables under construction;
* `TomlNode.distinctEntries_modifyAt`: a change at the end of a path keeps the keys distinct where
  it does so at its place;
* `Toml.distinct_ofStatements`: every line of a document keeps them distinct;
* `Toml.readsDistinct_readValue`, `Toml.distinct_of_parse`: values and documents.
-/

/-- No table in the value has a key twice, at any depth. -/
inductive Toml.Distinct : Toml → Prop where
  | str (s : String) : Distinct (.str s)
  | int (n : Int) : Distinct (.int n)
  | float (written : String) : Distinct (.float written)
  | bool (b : Bool) : Distinct (.bool b)
  | date (text : String) : Distinct (.date text)
  | arr {items : List Toml} (hitems : ∀ item ∈ items, Distinct item) : Distinct (.arr items)
  | table {entries : List (String × Toml)} (hkeys : (entries.map Prod.fst).Nodup)
      (hvalues : ∀ entry ∈ entries, Distinct entry.2) : Distinct (.table entries)

/-- A table without repeated keys has no key twice at its top. -/
theorem Toml.Distinct.keys {entries : List (String × Toml)} (h : (Toml.table entries).Distinct) :
    (entries.map Prod.fst).Nodup := by
  cases h with
  | table hkeys _ => exact hkeys

/-- The values in a table without repeated keys have none either. -/
theorem Toml.Distinct.of_get? {v value : Toml} {key : String} (h : v.Distinct)
    (hvalue : v.get? key = some value) : value.Distinct := by
  cases h with
  | table _ hvalues => exact hvalues _ (mem_of_lookup hvalue)
  | _ => cases hvalue

namespace TomlNode

/-! ### Tables under construction -/

/-- No table under the node has a key twice. -/
inductive Distinct : TomlNode → Prop where
  | value {v : Toml} (hv : v.Distinct) : Distinct (.value v)
  | table {entries : List (String × TomlNode)} (origin : TableOrigin)
      (hkeys : (entries.map Prod.fst).Nodup) (hnodes : ∀ entry ∈ entries, Distinct entry.2) :
      Distinct (.table origin entries)
  | tables {elements : List (List (String × TomlNode))}
      (hkeys : ∀ entries ∈ elements, (entries.map Prod.fst).Nodup)
      (hnodes : ∀ entries ∈ elements, ∀ entry ∈ entries, Distinct entry.2) :
      Distinct (.tables elements)

/-- No key is there twice, and no table under an entry has a key twice. -/
structure DistinctEntries (entries : Entries) : Prop where
  keys : (entries.map Prod.fst).Nodup
  nodes : ∀ entry ∈ entries, entry.2.Distinct

variable {entries inner : Entries} {elements : List Entries} {key : String} {node : TomlNode}
  {origin : TableOrigin}

theorem distinctEntries_nil : DistinctEntries [] := ⟨List.nodup_nil, by simp⟩

/-- A table of a draft repeats no key exactly when its entries repeat none. -/
theorem distinct_table_iff : (table origin inner).Distinct ↔ DistinctEntries inner := by
  refine ⟨fun h => ?_, fun h => .table origin h.keys h.nodes⟩
  cases h with
  | table _ hkeys hnodes => exact ⟨hkeys, hnodes⟩

/-- An array of tables repeats no key exactly when no element does. -/
theorem distinct_tables_iff :
    (tables elements).Distinct ↔ ∀ entries ∈ elements, DistinctEntries entries := by
  refine ⟨fun h => ?_, fun h => .tables (fun e he => (h e he).keys) fun e he => (h e he).nodes⟩
  cases h with
  | tables hkeys hnodes => exact fun e he => ⟨hkeys e he, hnodes e he⟩

/-- What is found under a key repeats no key itself. -/
theorem DistinctEntries.of_lookup (h : DistinctEntries entries)
    (hlookup : entries.lookup key = some node) : node.Distinct :=
  h.nodes _ (mem_of_lookup hlookup)

/-- Setting a key replaces its entry or adds the first one, so none is there twice. -/
theorem DistinctEntries.setKey (h : DistinctEntries entries) (hnode : node.Distinct) :
    DistinctEntries (setKey key node entries) := by
  refine ⟨nodup_setKey h.keys node, fun entry hentry => ?_⟩
  obtain rfl | hold := mem_setKey hentry
  · exact hnode
  · exact h.nodes entry hold

/-- The last table of a list changes, and the others stay. -/
theorem distinct_tables_concat (h : (tables elements).Distinct) (hinner : DistinctEntries inner) :
    (tables (elements.dropLast ++ [inner])).Distinct := by
  rw [distinct_tables_iff] at h ⊢
  refine List.forall_mem_append.mpr ⟨fun e he => h e ((List.dropLast_sublist _).subset he), ?_⟩
  exact List.forall_mem_singleton.mpr hinner

/-- **Changes at a path.** A change that keeps keys distinct at the end of a path keeps them
    distinct in the whole table. -/
theorem distinctEntries_modifyAt {viaDots : Bool} {path : List String} {changed : Entries}
    {change : TableOrigin → Entries → Option Entries}
    (hchange : ∀ origin before after, DistinctEntries before →
      change origin before = some after → DistinctEntries after)
    (hentries : DistinctEntries entries)
    (h : modifyAt viaDots change path origin entries = some changed) :
    DistinctEntries changed := by
  -- On the path. Each key is followed into a new table, an old one, or the last of an array.
  induction path generalizing origin entries changed with
  | nil => exact hchange origin entries changed hentries h
  | cons key path ih =>
    rw [modifyAt] at h
    split at h
    case h_1 =>
      obtain ⟨after, hafter, heq⟩ := Option.bind_eq_some_iff.mp h
      obtain rfl := Option.some.inj heq
      exact hentries.setKey (distinct_table_iff.mpr (ih distinctEntries_nil hafter))
    case h_2 inner hlookup =>
      have hinner := distinct_table_iff.mp (hentries.of_lookup hlookup)
      split at h
      case isTrue => cases h
      case isFalse =>
        obtain ⟨after, hafter, heq⟩ := Option.bind_eq_some_iff.mp h
        obtain rfl := Option.some.inj heq
        exact hentries.setKey (distinct_table_iff.mpr (ih hinner hafter))
    case h_3 elements hlookup =>
      have helements := hentries.of_lookup hlookup
      split at h
      case h_1 => cases h
      case h_2 inner hlast =>
        have hinner := distinct_tables_iff.mp helements inner (List.mem_of_getLast? hlast)
        obtain ⟨after, hafter, heq⟩ := Option.bind_eq_some_iff.mp h
        obtain rfl := Option.some.inj heq
        exact hentries.setKey (distinct_tables_concat helements (ih hinner hafter))
    case h_4 => cases h

/-! ### Lines of a document -/

/-- Only a key that is not there yet is added. -/
theorem distinctEntries_addNew {changed : Entries} (hentries : DistinctEntries entries)
    (hnode : node.Distinct) (h : addNew key node entries = some changed) :
    DistinctEntries changed := by
  rw [addNew] at h
  split at h
  case isTrue => cases h
  case isFalse =>
    obtain rfl := Option.some.inj h
    exact hentries.setKey hnode

/-- An assignment adds one new key to the table at its path. -/
theorem distinctEntries_assign {path : List String} {v : Toml} {changed : Entries}
    (hv : v.Distinct) (hentries : DistinctEntries entries)
    (h : assign path key v origin entries = some changed) : DistinctEntries changed := by
  refine distinctEntries_modifyAt (fun _ before after hbefore hafter => ?_) hentries h
  split at hafter
  case isTrue => cases hafter
  case isFalse => exact distinctEntries_addNew hbefore (.value hv) hafter

/-- A header opens a table that is new, or one that had no header yet. -/
theorem distinctEntries_openTable {changed : Entries} (hentries : DistinctEntries entries)
    (h : openTable key origin entries = some changed) : DistinctEntries changed := by
  rw [openTable] at h
  split at h
  case h_1 =>
    obtain rfl := Option.some.inj h
    exact hentries.setKey (distinct_table_iff.mpr distinctEntries_nil)
  case h_2 inner hlookup =>
    obtain rfl := Option.some.inj h
    have hinner := distinct_table_iff.mp (hentries.of_lookup hlookup)
    refine ⟨?_, List.forall_mem_append.mpr ⟨?_, ?_⟩⟩
    · rw [List.map_append, List.nodup_append]
      refine ⟨nodup_eraseKey hentries.keys key, List.pairwise_singleton _ key, ?_⟩
      intro k hk other hother
      obtain ⟨entry, hentry, rfl⟩ := List.mem_map.mp hk
      obtain rfl := List.mem_singleton.mp hother
      exact (mem_eraseKey.mp hentry).2
    · exact fun entry hentry => hentries.nodes entry (mem_eraseKey.mp hentry).1
    · exact List.forall_mem_singleton.mpr (distinct_table_iff.mpr hinner)
  case h_3 => cases h

/-- A header of an array adds one empty element to it. -/
theorem distinctEntries_openElement {changed : Entries} (hentries : DistinctEntries entries)
    (h : openElement key origin entries = some changed) : DistinctEntries changed := by
  rw [openElement] at h
  split at h
  case h_1 =>
    obtain rfl := Option.some.inj h
    refine hentries.setKey (distinct_tables_iff.mpr ?_)
    exact List.forall_mem_singleton.mpr distinctEntries_nil
  case h_2 elements hlookup =>
    obtain rfl := Option.some.inj h
    have helements := distinct_tables_iff.mp (hentries.of_lookup hlookup)
    refine hentries.setKey (distinct_tables_iff.mpr (List.forall_mem_append.mpr ⟨helements, ?_⟩))
    exact List.forall_mem_singleton.mpr distinctEntries_nil
  case h_3 => cases h

/-! ### Finished tables -/

/-- The entries of a draft are turned into values one by one. -/
theorem entriesToToml_eq_map (entries : Entries) :
    entriesToToml entries = entries.map fun entry => (entry.1, entry.2.toToml) := by
  induction entries with
  | nil => rfl
  | cons entry rest ih => rw [entriesToToml, ih, List.map_cons]

/-- The elements of an array of tables are turned into tables one by one. -/
theorem elementsToToml_eq_map (elements : List Entries) :
    elementsToToml elements = elements.map fun entries => .table (entriesToToml entries) := by
  induction elements with
  | nil => rfl
  | cons entries rest ih => rw [elementsToToml, ih, List.map_cons]

/-- A table of values that repeat no key, under different keys. -/
theorem distinct_entriesToToml (hkeys : (entries.map Prod.fst).Nodup)
    (hvalues : ∀ entry ∈ entries, entry.2.toToml.Distinct) :
    (Toml.table (entriesToToml entries)).Distinct := by
  rw [entriesToToml_eq_map]
  refine .table ?_ (List.forall_mem_map.mpr hvalues)
  rwa [List.map_map]

/-- A finished node has distinct keys where it had them under construction. -/
theorem Distinct.toToml (h : node.Distinct) : node.toToml.Distinct := by
  induction h with
  | value hv => exact hv
  | table origin hkeys hnodes ih => exact distinct_entriesToToml hkeys ih
  | tables hkeys hnodes ih =>
    rw [TomlNode.toToml, elementsToToml_eq_map]
    refine .arr (List.forall_mem_map.mpr fun entries hentries => ?_)
    exact distinct_entriesToToml (hkeys entries hentries) (ih entries hentries)

end TomlNode

/-- The value of a line has distinct keys, if it has a value. -/
def Statement.Distinct : Statement → Prop
  | .assign _ _ value => value.Distinct
  | .table _ _ => True
  | .element _ _ => True

/-- **One line** keeps the keys of a draft distinct. -/
theorem TomlDraft.distinct_add {d after : TomlDraft} {statement : Statement}
    (hd : TomlNode.DistinctEntries d.root) (hstatement : statement.Distinct)
    (h : d.add statement = some after) : TomlNode.DistinctEntries after.root := by
  cases statement with
  | assign path key value =>
    obtain ⟨root, hroot, heq⟩ := Option.bind_eq_some_iff.mp h
    obtain rfl := Option.some.inj heq
    exact TomlNode.distinctEntries_modifyAt
      (fun _ _ _ => TomlNode.distinctEntries_assign hstatement) hd hroot
  | table path key =>
    obtain ⟨root, hroot, heq⟩ := Option.bind_eq_some_iff.mp h
    obtain rfl := Option.some.inj heq
    exact TomlNode.distinctEntries_modifyAt (fun _ _ _ => TomlNode.distinctEntries_openTable) hd
      hroot
  | element path key =>
    obtain ⟨root, hroot, heq⟩ := Option.bind_eq_some_iff.mp h
    obtain rfl := Option.some.inj heq
    exact TomlNode.distinctEntries_modifyAt (fun _ _ _ => TomlNode.distinctEntries_openElement) hd
      hroot

/-- **All statements.** A draft that repeats no key stays so along any list of statements. -/
theorem TomlDraft.distinct_foldlM {d after : TomlDraft} {statements : List Statement}
    (hd : TomlNode.DistinctEntries d.root) (hstatements : ∀ s ∈ statements, s.Distinct)
    (h : statements.foldlM TomlDraft.add d = some after) :
    TomlNode.DistinctEntries after.root := by
  induction statements generalizing d with
  | nil =>
    obtain rfl := Option.some.inj h
    exact hd
  | cons statement rest ih =>
    obtain ⟨hfirst, hrest⟩ := List.forall_mem_cons.mp hstatements
    rw [List.foldlM_cons] at h
    obtain ⟨next, hnext, h⟩ := Option.bind_eq_some_iff.mp h
    exact ih (TomlDraft.distinct_add hd hfirst hnext) hrest h

namespace Toml

/-- **Lines.** The document of some lines has distinct keys. -/
theorem distinct_ofStatements {statements : List Statement} {v : Toml}
    (hstatements : ∀ s ∈ statements, s.Distinct) (h : ofStatements statements = some v) :
    v.Distinct := by
  obtain ⟨draft, hdraft, heq⟩ := Option.bind_eq_some_iff.mp h
  obtain rfl := Option.some.inj heq
  have hroot := TomlDraft.distinct_foldlM TomlNode.distinctEntries_nil hstatements hdraft
  exact TomlNode.distinct_entriesToToml hroot.keys fun entry hentry =>
    (hroot.nodes entry hentry).toToml

/-! ### Reading -/

/-- The reader gives only values with distinct keys. -/
def ReadsDistinct (read : List Char → Option (Toml × List Char)) : Prop :=
  ∀ s v rest, read s = some (v, rest) → v.Distinct

/-- Trying one reader after another. -/
theorem ReadsDistinct.or {first second : List Char → Option (Toml × List Char)}
    (hfirst : ReadsDistinct first) (hsecond : ReadsDistinct second) :
    ReadsDistinct fun s => (first s).or (second s) := by
  intro s v rest h
  obtain h | ⟨-, h⟩ := Option.or_eq_some_iff.mp h
  · exact hfirst s v rest h
  · exact hsecond s v rest h

/-- What starts as a date is read as a date. -/
theorem exists_date_of_readDate {s rest : List Char} {v : Toml}
    (h : TomlDate.readDate s = some (v, rest)) : ∃ text, v = .date text := by
  obtain ⟨⟨day, behind⟩, -, h⟩ := Option.bind_eq_some_iff.mp h
  dsimp only at h
  split at h
  case h_1 =>
    split at h
    case isTrue =>
      split at h
      case h_1 =>
        obtain ⟨offset, -, h⟩ := Option.bind_eq_some_iff.mp h
        cases h
        exact ⟨_, rfl⟩
      case h_2 =>
        cases h
        exact ⟨_, rfl⟩
    case isFalse =>
      cases h
      exact ⟨_, rfl⟩
  case h_2 =>
    cases h
    exact ⟨_, rfl⟩

/-- A time without a date is read as a date as well. -/
theorem exists_date_of_readMoment {s rest : List Char} {v : Toml}
    (h : TomlDate.readMoment s = some (v, rest)) : ∃ text, v = .date text := by
  obtain h | ⟨-, h⟩ := Option.or_eq_some_iff.mp h
  · exact exists_date_of_readDate h
  · obtain ⟨moment, -, h⟩ := Option.map_eq_some_iff.mp h
    cases h
    exact ⟨_, rfl⟩

/-- A date has no keys. -/
theorem readsDistinct_readMoment : ReadsDistinct TomlDate.readMoment := by
  intro s v rest h
  obtain ⟨text, rfl⟩ := exists_date_of_readMoment h
  exact .date text

/-- A float has no keys. -/
theorem readsDistinct_readFloat : ReadsDistinct TomlNumber.readFloat := by
  refine ReadsDistinct.or (fun s v rest h => ?_) fun s v rest h => ?_
  · obtain ⟨whole, -, h⟩ := Option.bind_eq_some_iff.mp h
    obtain ⟨fraction, -, h⟩ := Option.bind_eq_some_iff.mp h
    obtain ⟨exponent, -, h⟩ := Option.bind_eq_some_iff.mp h
    dsimp only at h
    obtain ⟨-, h⟩ := Option.ite_none_left_eq_some.mp h
    obtain ⟨-, h⟩ := Option.ite_none_left_eq_some.mp h
    cases h
    exact .float _
  · rw [TomlNumber.readSpecial] at h
    generalize TomlNumber.readSign s = signed at h
    obtain ⟨negative, unsigned⟩ := signed
    dsimp only at h
    split at h
    case h_1 =>
      cases h
      exact .float _
    case h_2 =>
      cases h
      exact .float _
    case h_3 => cases h

/-- An integer has no keys. -/
theorem distinct_of_fitting {n : Int} {s rest : List Char} {v : Toml}
    (h : TomlNumber.fitting n s = some (v, rest)) : v.Distinct := by
  rw [TomlNumber.fitting] at h
  split at h
  case isTrue =>
    cases h
    exact .int n
  case isFalse => cases h

theorem readsDistinct_readRadix (base : Nat) (isDigit : Char → Bool) :
    ReadsDistinct (TomlNumber.readRadix base isDigit) := by
  intro s v rest h
  obtain ⟨digits, -, h⟩ := Option.bind_eq_some_iff.mp h
  exact distinct_of_fitting h

theorem readsDistinct_readInteger : ReadsDistinct TomlNumber.readInteger := by
  intro s v rest h
  rw [TomlNumber.readInteger.eq_def] at h
  split at h
  case h_1 => exact readsDistinct_readRadix _ _ _ v rest h
  case h_2 => exact readsDistinct_readRadix _ _ _ v rest h
  case h_3 => exact readsDistinct_readRadix _ _ _ v rest h
  case h_4 =>
    obtain ⟨whole, -, h⟩ := Option.bind_eq_some_iff.mp h
    exact distinct_of_fitting h

/-- A string has no keys. -/
theorem readsDistinct_readText : ReadsDistinct readText := by
  intro s v rest h
  obtain ⟨text, -, h⟩ := Option.map_eq_some_iff.mp h
  cases h
  exact .str _

section Contents

variable {read : List Char → Option (Toml × List Char)}

/-- The elements of an array are as its reader of values gives them. -/
theorem distinct_of_readElements (hread : ReadsDistinct read) {fuel : Nat} {s rest : List Char}
    {items : List Toml} (h : readElements read fuel s = some (items, rest)) :
    ∀ item ∈ items, item.Distinct := by
  induction fuel generalizing s items rest with
  | zero => cases h
  | succ fuel ih =>
    rw [readElements] at h
    split at h
    case h_1 =>
      cases h
      simp
    case h_2 =>
      obtain ⟨⟨item, behind⟩, hitem, h⟩ := Option.bind_eq_some_iff.mp h
      have hfirst := hread _ item behind hitem
      dsimp only at h
      split at h
      case h_1 =>
        obtain ⟨⟨others, after⟩, hothers, h⟩ := Option.bind_eq_some_iff.mp h
        cases h
        exact List.forall_mem_cons.mpr ⟨hfirst, ih hothers⟩
      case h_2 =>
        cases h
        exact List.forall_mem_singleton.mpr hfirst
      case h_3 => cases h

/-- The values in an inline table are as its reader of values gives them. -/
theorem distinct_of_readAssignments (hread : ReadsDistinct read) {fuel : Nat} {s rest : List Char}
    {assignments : List (List String × String × Toml)}
    (h : readAssignments read fuel s = some (assignments, rest)) :
    ∀ a ∈ assignments, a.2.2.Distinct := by
  induction fuel generalizing s assignments rest with
  | zero => cases h
  | succ fuel ih =>
    rw [readAssignments] at h
    obtain ⟨⟨parts, afterKey⟩, -, h⟩ := Option.bind_eq_some_iff.mp h
    obtain ⟨⟨path, key⟩, -, h⟩ := Option.bind_eq_some_iff.mp h
    dsimp only at h
    split at h
    case h_2 => cases h
    case h_1 =>
      obtain ⟨⟨value, behind⟩, hvalue, h⟩ := Option.bind_eq_some_iff.mp h
      have hfirst := hread _ value behind hvalue
      dsimp only at h
      split at h
      case h_1 =>
        obtain ⟨⟨others, after⟩, hothers, h⟩ := Option.bind_eq_some_iff.mp h
        cases h
        exact List.forall_mem_cons.mpr ⟨hfirst, ih hothers⟩
      case h_2 =>
        cases h
        exact List.forall_mem_singleton.mpr hfirst
      case h_3 => cases h

/-- An inline table is a draft of its own, so a repeated key is refused there as well. -/
theorem distinct_ofAssignments {assignments : List (List String × String × Toml)} {v : Toml}
    (hvalues : ∀ a ∈ assignments, a.2.2.Distinct) (h : ofAssignments assignments = some v) :
    v.Distinct :=
  distinct_ofStatements (List.forall_mem_map.mpr hvalues) h

end Contents

/-- Numbers and dates, which start alike. -/
theorem readsDistinct_readNumeral : ReadsDistinct readNumeral :=
  (readsDistinct_readMoment.or readsDistinct_readFloat).or readsDistinct_readInteger

/-- A value at the start of a text, when what it holds has distinct keys. -/
theorem readsDistinct_readValue_of_inner {depth : Nat}
    (hinner : ∀ d, depth = d + 1 → ReadsDistinct (readValue d)) :
    ReadsDistinct (readValue depth) := by
  intro s v rest h
  rw [readValue.eq_def] at h
  dsimp only at h
  -- Only arrays and inline tables hold other values, and they are read one level further down.
  split at h
  case h_1 =>
    split at h
    case h_1 => cases h
    case h_2 =>
      obtain ⟨⟨items, after⟩, hitems, h⟩ := Option.map_eq_some_iff.mp h
      cases h
      exact .arr (distinct_of_readElements (hinner _ rfl) hitems)
  case h_2 =>
    split at h
    case h_1 => cases h
    case h_2 =>
      split at h
      case h_1 =>
        cases h
        exact .table List.nodup_nil (by simp)
      case h_2 =>
        obtain ⟨⟨assignments, after⟩, hassignments, h⟩ := Option.bind_eq_some_iff.mp h
        obtain ⟨table, htable, h⟩ := Option.bind_eq_some_iff.mp h
        cases h
        exact distinct_ofAssignments
          (distinct_of_readAssignments (hinner _ rfl) hassignments) htable
  case h_3 => exact readsDistinct_readText _ v rest h
  case h_4 => exact readsDistinct_readText _ v rest h
  case h_5 =>
    cases h
    exact .bool true
  case h_6 =>
    cases h
    exact .bool false
  case h_7 => exact readsDistinct_readNumeral _ v rest h

/-- **Values.** A value that can be read has distinct keys, however deep it nests. -/
theorem readsDistinct_readValue (depth : Nat) : ReadsDistinct (readValue depth) := by
  induction depth with
  | zero => exact readsDistinct_readValue_of_inner fun d hd => absurd hd (Nat.succ_ne_zero d).symm
  | succ depth ih =>
    refine readsDistinct_readValue_of_inner fun d hd => ?_
    rwa [← Nat.succ.inj hd]

/-- The value of a statement repeats no key. -/
theorem distinct_of_readAssignment {s rest : List Char} {statement : Statement}
    (h : readAssignment s = some (statement, rest)) : statement.Distinct := by
  obtain ⟨⟨parts, afterKey⟩, -, h⟩ := Option.bind_eq_some_iff.mp h
  obtain ⟨⟨path, key⟩, -, h⟩ := Option.bind_eq_some_iff.mp h
  dsimp only at h
  split at h
  case h_2 => cases h
  case h_1 =>
    obtain ⟨⟨value, behind⟩, hvalue, h⟩ := Option.bind_eq_some_iff.mp h
    obtain ⟨after, -, h⟩ := Option.bind_eq_some_iff.mp h
    cases h
    exact readsDistinct_readValue _ _ value behind hvalue

/-- A header gives a statement without a value. -/
theorem exists_of_readHeader {closing s rest : List Char} {make : List String → String → Statement}
    {statement : Statement} (h : readHeader closing make s = some (statement, rest)) :
    ∃ path key, statement = make path key := by
  obtain ⟨⟨parts, afterKey⟩, -, h⟩ := Option.bind_eq_some_iff.mp h
  obtain ⟨⟨path, key⟩, -, h⟩ := Option.bind_eq_some_iff.mp h
  obtain ⟨behind, -, h⟩ := Option.bind_eq_some_iff.mp h
  obtain ⟨after, -, h⟩ := Option.bind_eq_some_iff.mp h
  cases h
  exact ⟨path, key, rfl⟩

theorem distinct_of_readStatements {fuel : Nat} {s : List Char} {statements : List Statement}
    (h : readStatements fuel s = some statements) :
    ∀ statement ∈ statements, statement.Distinct := by
  -- On the fuel. Comments and line ends add no statement, and the headers have no value.
  induction fuel generalizing s statements with
  | zero => cases h
  | succ fuel ih =>
    rw [readStatements.eq_def] at h
    dsimp only at h
    split at h
    case h_1 =>
      cases h
      simp
    case h_2 =>
      obtain ⟨after, -, h⟩ := Option.bind_eq_some_iff.mp h
      exact ih h
    case h_3 => exact ih h
    case h_4 => exact ih h
    case h_5 =>
      obtain ⟨⟨statement, behind⟩, hfirst, h⟩ := Option.bind_eq_some_iff.mp h
      obtain ⟨others, hothers, h⟩ := Option.bind_eq_some_iff.mp h
      cases h
      obtain ⟨path, key, rfl⟩ := exists_of_readHeader hfirst
      exact List.forall_mem_cons.mpr ⟨trivial, ih hothers⟩
    case h_6 =>
      obtain ⟨⟨statement, behind⟩, hfirst, h⟩ := Option.bind_eq_some_iff.mp h
      obtain ⟨others, hothers, h⟩ := Option.bind_eq_some_iff.mp h
      cases h
      obtain ⟨path, key, rfl⟩ := exists_of_readHeader hfirst
      exact List.forall_mem_cons.mpr ⟨trivial, ih hothers⟩
    case h_7 =>
      obtain ⟨⟨statement, behind⟩, hfirst, h⟩ := Option.bind_eq_some_iff.mp h
      obtain ⟨others, hothers, h⟩ := Option.bind_eq_some_iff.mp h
      cases h
      exact List.forall_mem_cons.mpr ⟨distinct_of_readAssignment hfirst, ih hothers⟩

/-- **Documents.** No table of a document has a key twice. -/
theorem distinct_of_parse {text : String} {v : Toml} (h : parse text = some v) : v.Distinct := by
  obtain ⟨statements, hstatements, h⟩ := Option.bind_eq_some_iff.mp h
  exact distinct_ofStatements (distinct_of_readStatements hstatements) h

/-- A document is a table. -/
theorem exists_entries_of_parse {text : String} {v : Toml} (h : parse text = some v) :
    ∃ entries, v = .table entries := by
  obtain ⟨statements, -, h⟩ := Option.bind_eq_some_iff.mp h
  obtain ⟨draft, -, h⟩ := Option.bind_eq_some_iff.mp h
  exact ⟨_, (Option.some.inj h).symm⟩

end Toml

end ServiceLang
