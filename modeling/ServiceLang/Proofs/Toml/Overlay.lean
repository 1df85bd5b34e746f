import ServiceLang.Proofs.Keyed
import ServiceLang.Toml.Overlay

namespace ServiceLang.Toml

/-!
# Look-up behind an overlay

What stands under a key after one table was laid over another:

* `isTable`: only a table over a table is merged with it, and every other value replaces it;
* `lookup_overlayEntries_of_none`: keys that the upper table does not have keep their values;
* `lookup_overlayEntries_of_some`: the other keys have the upper value, laid over the lower one;
* `lookup_overlayEntries_of_replaces`: where the upper value replaces the lower one, it is the upper
  one, if any.
-/

/-- Whether a value is a table. -/
def isTable : Toml → Bool
  | .table _ => true
  | _ => false

theorem exists_of_isTable {v : Toml} (h : v.isTable = true) : ∃ entries, v = .table entries := by
  cases v with
  | table entries => exact ⟨entries, rfl⟩
  | _ => cases h

theorem ne_table_of_isTable_eq_false {v : Toml} (h : v.isTable = false) :
    ∀ entries, v ≠ .table entries := by
  rintro entries rfl
  cases h

variable {base upper : List (String × Toml)} {key : String} {value : Toml}

theorem overlay_table :
    overlay (.table base) (.table upper) = .table (overlayEntries base upper) := by
  rw [overlay]

/-- Only a table is merged with what it covers. -/
theorem overlay_of_not_table (covered : Toml) (h : ∀ entries, value ≠ .table entries) :
    overlay covered value = value := by
  rw [overlay]
  exact fun _ upper _ hvalue => h upper hvalue

/-- Only a table is merged with what covers it. -/
theorem overlay_of_lower {covered : Toml} (value : Toml) (h : ∀ entries, covered ≠ .table entries) :
    overlay covered value = value := by
  rw [overlay]
  exact fun lower _ hlower => absurd hlower (h lower)

/-- One entry laid over a table. -/
def overlayEntry (base : List (String × Toml)) (key : String) (value : Toml) :
    List (String × Toml) :=
  setKey key ((base.lookup key).elim value fun covered => overlay covered value) base

theorem overlayEntries_cons (entry : String × Toml) (rest : List (String × Toml)) :
    overlayEntries base (entry :: rest) =
      overlayEntries (overlayEntry base entry.1 entry.2) rest := by
  obtain ⟨k, v⟩ := entry
  rw [overlayEntries, overlayEntry]
  split
  case h_1 hlookup => rw [hlookup, Option.elim_some]
  case h_2 hlookup => rw [hlookup, Option.elim_none]

/-- A key that the upper table does not have keeps its value. -/
theorem lookup_overlayEntries_of_none (h : upper.lookup key = none) :
    (overlayEntries base upper).lookup key = base.lookup key := by
  induction upper generalizing base with
  | nil => rw [overlayEntries]
  | cons entry rest ih =>
    rw [lookup_cons_eq_ite] at h
    split at h
    case isTrue => cases h
    case isFalse hne => rw [overlayEntries_cons, ih h, overlayEntry, lookup_setKey, if_neg hne]

/-- A key of the upper table has its value, laid over the lower one if there is one. -/
theorem lookup_overlayEntries_of_some (hkeys : (upper.map Prod.fst).Nodup)
    (h : upper.lookup key = some value) :
    (overlayEntries base upper).lookup key =
      some ((base.lookup key).elim value fun covered => overlay covered value) := by
  induction upper generalizing base with
  | nil => cases h
  | cons entry rest ih =>
    rw [List.map_cons, List.nodup_cons] at hkeys
    rw [lookup_cons_eq_ite] at h
    rw [overlayEntries_cons]
    by_cases hk : key = entry.1
    · rw [if_pos hk] at h
      have hrest : rest.lookup key = none := by
        cases hlookup : rest.lookup key with
        | none => rfl
        | some other =>
          have hmem := List.mem_map_of_mem (f := Prod.fst) (mem_of_lookup hlookup)
          exact absurd (hk ▸ hmem) hkeys.1
      rw [lookup_overlayEntries_of_none hrest, overlayEntry, lookup_setKey, if_pos hk, hk,
        Option.some.inj h]
    · rw [if_neg hk] at h
      rw [ih hkeys.2 h, overlayEntry, lookup_setKey, if_neg hk]

/-- A key has the upper value where that one replaces what it covers, else the lower one. -/
theorem lookup_overlayEntries_of_replaces (hkeys : (upper.map Prod.fst).Nodup)
    (h : ∀ value ∈ upper.lookup key, ∀ covered ∈ base.lookup key, overlay covered value = value) :
    (overlayEntries base upper).lookup key = (upper.lookup key).or (base.lookup key) := by
  cases hlookup : upper.lookup key with
  | none => rw [lookup_overlayEntries_of_none hlookup, Option.none_or]
  | some value =>
    rw [lookup_overlayEntries_of_some hkeys hlookup, Option.some_or]
    cases hcovered : base.lookup key with
    | none => rfl
    | some covered => exact congrArg some (h value hlookup covered hcovered)

/-- A value that is no table replaces what it covers. -/
theorem lookup_overlayEntries_of_not_table (hkeys : (upper.map Prod.fst).Nodup)
    (h : ∀ entries, upper.lookup key ≠ some (.table entries)) :
    (overlayEntries base upper).lookup key = (upper.lookup key).or (base.lookup key) := by
  refine lookup_overlayEntries_of_replaces hkeys fun value hvalue covered _ => ?_
  refine overlay_of_not_table covered fun entries heq => ?_
  exact h entries (heq ▸ hvalue)

/-- What stands above a value that is no table replaces it. -/
theorem lookup_overlayEntries_of_lower (hkeys : (upper.map Prod.fst).Nodup)
    (h : ∀ entries, base.lookup key ≠ some (.table entries)) :
    (overlayEntries base upper).lookup key = (upper.lookup key).or (base.lookup key) := by
  refine lookup_overlayEntries_of_replaces hkeys fun value _ covered hcovered => ?_
  refine overlay_of_lower value fun entries heq => ?_
  exact h entries (heq ▸ hcovered)

end ServiceLang.Toml
